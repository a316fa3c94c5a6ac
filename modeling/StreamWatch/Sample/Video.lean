import StreamWatch.Sample.Number

/-! One video element of a page: its place in document order, how far it has played, the size of its
frame and the tracks of its stream. -/
namespace StreamWatch.Sample

open Json (Value)

structure Video where
  index : Int
  time : Float := 0.0
  width : Int := 0
  height : Int := 0
  audioTracks : Int := 0
  videoTracks : Int := 0
  readyState : Option Int := none
  paused : Option Value := none

namespace Video

def ofFields (fields : List (String × Value)) (place : Int) : Except Fault Video := do
  let index ← counter ((Value.find? "index" fields).getD (.int place))
  let time ← seconds (Value.field "currentTime" fields)
  let width ← counter (Value.field "videoWidth" fields)
  let height ← counter (Value.field "videoHeight" fields)
  let audioTracks ← counter (Value.field "audioTracks" fields)
  let videoTracks ← counter (Value.field "videoTracks" fields)
  let readyState ← optionalCounter (Value.field "readyState" fields)
  let paused := Value.field "paused" fields
  pure {
    index, time, width, height, audioTracks, videoTracks, readyState
    paused := if paused.isNull then none else some paused }

def ofJson (v : Value) (place : Int) : Except Fault Video := do
  ofFields (← fieldsOf v) place

def toJson (v : Video) : Value :=
  .record ([
    ("index", .int v.index), ("currentTime", .float v.time), ("videoWidth", .int v.width),
    ("videoHeight", .int v.height), ("audioTracks", .int v.audioTracks),
    ("videoTracks", .int v.videoTracks)] ++
    v.readyState.toList.map (fun n => ("readyState", .int n)) ++
    v.paused.toList.map fun p => ("paused", p))

end Video
end StreamWatch.Sample
