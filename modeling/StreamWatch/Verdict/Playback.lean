import StreamWatch.Sample.Snapshot

/-! Whether playback moved on between two snapshots. Videos are matched by index; of several videos
with one index the last one counts as the earlier state. The rule is stated for pairs of index and
time over any kind of number. -/
namespace StreamWatch

namespace Playback

variable {ρ : Type}

def lastTime? (index : Int) (times : List (Int × ρ)) : Option ρ :=
  (times.reverse.find? (·.1 == index)).map (·.2)

def matched (before after : List (Int × ρ)) : Bool :=
  after.any fun (index, _) => (lastTime? index before).isSome

def advanced [Add ρ] [LT ρ] [DecidableLT ρ] (threshold : ρ) (before after : List (Int × ρ)) :
    Bool :=
  after.any fun (index, time) => match lastTime? index before with
    | some earlier => earlier + threshold < time
    | none => false

/-- Seconds; a move of just this much does not count. -/
def threshold : Float := 0.4

def thresholdOf : Json.Value → Except Fault Float
  | .bool b => .ok (if b then 1.0 else 0.0)
  | .int n => Sample.floatOf n
  | .float x => .ok x
  | _ => .error .wrongKind

end Playback

namespace Sample.Snapshot

def times (s : Snapshot) : List (Int × Float) := s.videos.map fun v => (v.index, v.time)

def playbackAdvanced (before after : Snapshot) (threshold : Float) : Bool :=
  Playback.advanced threshold before.times after.times

/-- The same by a threshold of unknown shape. It has to be a number of seconds, but it is looked at
only where there are times to compare. -/
def playbackAdvancedBy (before after : Snapshot) (threshold : Json.Value) : Except Fault Bool :=
  if Playback.matched before.times after.times then
    (Playback.thresholdOf threshold).map (before.playbackAdvanced after)
  else .ok false

end Sample.Snapshot
end StreamWatch
