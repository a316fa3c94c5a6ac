import StreamWatch.Json.Display
import StreamWatch.Sample.Number

/-! One peer connection of a page: its byte counters, or the error that stands in their place. -/
namespace StreamWatch.Sample

open Json (Value)

structure Counters where
  state : Value := .null
  inboundVideo : Option Int := none
  inboundAudio : Option Int := none
  outboundVideo : Option Int := none
  outboundAudio : Option Int := none
  framesDecoded : Option Int := none

inductive Peer
  | failed (error : String)
  | connected (counters : Counters)

namespace Peer

def error? : Peer → Option String
  | failed error => some error
  | connected _ => none

def counters : Peer → Counters
  | failed _ => {}
  | connected c => c

def inboundAudio (p : Peer) : Int := p.counters.inboundAudio.getD 0

def inbound (p : Peer) : Int := p.counters.inboundVideo.getD 0 + p.inboundAudio

def outbound (p : Peer) : Int :=
  p.counters.outboundVideo.getD 0 + p.counters.outboundAudio.getD 0

def receives (p : Peer) : Bool :=
  p.counters.inboundVideo.getD 0 > 0 || p.inboundAudio > 0 || p.counters.framesDecoded.getD 0 > 0

def total (count : Peer → Int) (peers : List Peer) : Int := peers.foldr (fun p n => count p + n) 0

def ofFields (fields : List (String × Value)) : Except Fault Peer := do
  let error := Value.field "error" fields
  if !error.isNull then return failed (← error.display)
  let state := Value.field "state" fields
  let inboundVideo ← optionalCounter (Value.field "inboundVideoBytes" fields)
  let inboundAudio ← optionalCounter (Value.field "inboundAudioBytes" fields)
  let outboundVideo ← optionalCounter (Value.field "outboundVideoBytes" fields)
  let outboundAudio ← optionalCounter (Value.field "outboundAudioBytes" fields)
  let framesDecoded ← optionalCounter (Value.field "framesDecoded" fields)
  pure (connected
    { state, inboundVideo, inboundAudio, outboundVideo, outboundAudio, framesDecoded })

def ofJson (v : Value) : Except Fault Peer := do
  ofFields (← fieldsOf v)

def numberField (key : String) (n : Option Int) : List (String × Value) :=
  n.toList.map fun n => (key, .int n)

def toJson : Peer → Value
  | failed error => .record [("error", .text error)]
  | connected c => .record (("state", c.state) ::
      numberField "inboundVideoBytes" c.inboundVideo ++
      numberField "inboundAudioBytes" c.inboundAudio ++
      numberField "outboundVideoBytes" c.outboundVideo ++
      numberField "outboundAudioBytes" c.outboundAudio ++
      numberField "framesDecoded" c.framesDecoded)

end Peer
end StreamWatch.Sample
