import StreamWatch.Proofs.Json.RoundTrip
import StreamWatch.Proofs.Report.Writing

/-! A report that was written reads back as what it was written from, and the console shows the
text of the file or nothing. -/
namespace StreamWatch.Report

open Browser (Check World)

variable {τ : Type}

theorem printed_of_makeDirectory_ok {p : Path} {w v : World τ}
    (h : Check.makeDirectory p w = (.ok (), v)) : v.printed = w.printed := by
  rw [Check.makeDirectory_run] at h
  rw [← (Prod.mk.inj h).2]

theorem printed_of_writeFile_ok {p : Path} {text : String} {w v : World τ}
    (h : Check.writeFile p text w = (.ok (), v)) : v.printed = w.printed := by
  rw [Check.writeFile_run] at h
  cases hw : w.files.write p text with
  | error f =>
    rw [hw] at h
    cases h
  | ok files =>
    rw [hw] at h
    cases h
    rfl

theorem printed_of_write_ok {payload : Json.Value} {path : Path} {echo : Bool} {w v : World τ}
    (h : write payload path echo w = (.ok (), v)) :
    v.printed = if echo then w.printed ++ (payload.render ++ "\n") else w.printed := by
  obtain ⟨_, made, hmade, h⟩ := Check.bind_ok h
  obtain ⟨text, shown, hshown, h⟩ := Check.bind_ok h
  obtain ⟨_, written, hwritten, h⟩ := Check.bind_ok h
  obtain ⟨_, logged, hlogged, last⟩ := Check.bind_ok h
  obtain ⟨lines, rfl⟩ := Check.log_ok hlogged
  obtain ⟨htext, rfl⟩ := Check.ok_of_ofFault hshown
  have rendered : text = payload.render := by
    rw [Json.Value.shown] at htext
    split at htext
    · cases htext
      rfl
    · cases htext
  have kept : written.printed = w.printed := calc
    written.printed = shown.printed := printed_of_writeFile_ok hwritten
    _ = w.printed := printed_of_makeDirectory_ok hmade
  cases echo with
  | false =>
    cases last
    exact kept
  | true =>
    have hprint := (Check.print_run text { written with log := lines }).symm.trans last
    rw [← (Prod.mk.inj hprint).2, ← kept, ← rendered]
    exact String.append_assoc

theorem write_reads_back {payload : Json.Value} {path : Path} (echo : Bool) {w : World τ}
    (digits : payload.isWritable = true) (numbers : Json.Faithful payload.floats)
    (place : w.files.Accepts path) :
    ∃ text v, write payload path echo w = (.ok (), v) ∧
      v.files.read? path = some (text ++ "\n") ∧ Json.IsAscii text.toList ∧
      Json.Value.parse? text = some payload ∧
      v.printed = if echo then w.printed ++ (text ++ "\n") else w.printed := by
  obtain ⟨v, hv, hread⟩ := write_of_accepts echo digits place
  refine ⟨payload.render, v, hv, hread, ?_, Json.parse?_render numbers, printed_of_write_ok hv⟩
  rw [Json.Value.render, String.toList_ofList]
  exact Json.isAscii_print 0 payload

def sampler : Json.Value := .record [
  ("results", .list [.list [], .record [], .list [.record [("a\x22b\\\n", .null)], .bool true]]),
  ("", .text "é😀\x7f\x00/"),
  ("numbers", .list [.int (-12), .float (-0.0), .float 0.1, .float 1e22, .float (-5e-324),
    .float Numeral.Decimal.undefined, .float (-Numeral.Decimal.infinity)])]

theorem write_reads_back_sampler :
    (sampler.isWritable = true ∧ Json.Faithful sampler.floats ∧
      (World.start 0 [] : World Rat).files.Accepts (.ofText "out/report.json")) ∧
    ∃ text v, write sampler (.ofText "out/report.json") true (World.start 0 [] : World Rat) =
        (.ok (), v) ∧
      v.files.read? (.ofText "out/report.json") = some (text ++ "\n") ∧
      Json.IsAscii text.toList ∧ Json.Value.parse? text = some sampler ∧
      v.printed = "" ++ (text ++ "\n") := by
  have digits : sampler.isWritable = true := by decide +kernel
  have numbers : Json.Faithful sampler.floats := by decide +kernel
  have place : (World.start 0 [] : World Rat).files.Accepts (.ofText "out/report.json") :=
    ⟨by decide +kernel, fun text => ⟨_, rfl⟩⟩
  exact ⟨⟨digits, numbers, place⟩, write_reads_back true digits numbers place⟩

end StreamWatch.Report
