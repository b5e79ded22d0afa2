import Mathlib.Data.PNat.Defs
import Mathlib.Logic.Function.Basic
import Mathlib.Logic.Relation
import Scratchpad.Execution.Launch
import Scratchpad.Proofs.Text.Utf8

/-!
# Collecting what a program writes

While a program writes to its two streams, each of them goes through a pipe of bounded size, and
the pipes are drained at the same time. `Capture` is where this stands, and `Capture.Step` is one
thing that can happen next: which, and how many bytes it moves, is left to the schedule. No byte is
lost or moved to the other stream (`Account`), something can always happen until all is collected
(`exists_step`), and it does not go on for ever (`wellFounded_step`). So every schedule ends, and in
one and the same result (`returns_iff`): that of `Launch.result`.
-/

namespace Scratchpad.Execution

open Scratchpad.Text

/-- The pipe of a stream and what was drained from it. -/
structure Channel where
  /-- The bytes that are in the pipe. -/
  piped : List UInt8
  /-- The bytes that were read from it. -/
  drained : List UInt8
  /-- Whether its end was reached. -/
  ended : Bool
  deriving DecidableEq

/-- A running program, and what was collected of its output. -/
structure Capture where
  /-- What is still to be written. -/
  ahead : List Write
  channel : Stream → Channel
  /-- Whether the program has come to its end. What it started may write even after that. -/
  exited : Bool

theorem bytesOf_eq_nil {stream : Stream} {writes : List Write}
    (h : ∀ w ∈ writes, w.stream ≠ stream) : bytesOf stream writes = [] := by
  rw [bytesOf, List.filter_eq_nil_iff.2 (by simpa using h)]
  rfl

namespace Capture

variable {capacity : Stream → ℕ+} {writes : List Write} {ending : Ending} {s t : Capture}
  {stream : Stream}

/-- A program that was just started. -/
def start (writes : List Write) : Capture := ⟨writes, fun _ => ⟨[], [], false⟩, false⟩

/-- One thing that happens while the output is collected. -/
inductive Step (capacity : Stream → ℕ+) : Capture → Capture → Prop where
  /-- A part of the next chunk is written that the pipe has room for. -/
  | write {s : Capture} {stream : Stream} {part bytes : List UInt8} {more : List Write}
      (next : s.ahead = ⟨stream, part ++ bytes⟩ :: more) (nonempty : part ≠ [])
      (fits : (s.channel stream).piped.length + part.length ≤ capacity stream) :
      Step capacity s
        { s with
          ahead := ⟨stream, bytes⟩ :: more
          channel := Function.update s.channel stream
            { s.channel stream with piped := (s.channel stream).piped ++ part } }
  /-- Nothing of the next chunk is left. -/
  | written {s : Capture} {stream : Stream} {more : List Write}
      (next : s.ahead = ⟨stream, []⟩ :: more) : Step capacity s { s with ahead := more }
  /-- Some bytes are read from a pipe. -/
  | read {s : Capture} {stream : Stream} {part bytes : List UInt8}
      (next : (s.channel stream).piped = part ++ bytes) (nonempty : part ≠ []) :
      Step capacity s
        { s with
          channel := Function.update s.channel stream
            { s.channel stream with
              piped := bytes
              drained := (s.channel stream).drained ++ part } }
  /-- The end of a stream is reached: its pipe is empty, and nobody will write to it. -/
  | close {s : Capture} {stream : Stream} (unwritten : ∀ w ∈ s.ahead, w.stream ≠ stream)
      (empty : (s.channel stream).piped = []) (unended : (s.channel stream).ended = false) :
      Step capacity s
        { s with
          channel := Function.update s.channel stream { s.channel stream with ended := true } }
  /-- The program comes to its end. -/
  | exit {s : Capture} (running : s.exited = false) : Step capacity s { s with exited := true }

/-- What can happen to a program that writes `writes`. -/
def Reaches (capacity : Stream → ℕ+) (writes : List Write) : Capture → Prop :=
  Relation.ReflTransGen (Step capacity) (start writes)

/-- All is collected: the program has ended, and so have both streams. -/
def IsComplete (s : Capture) : Prop := s.exited = true ∧ ∀ stream, (s.channel stream).ended = true

/-- The result that is made of what was collected. -/
def result (s : Capture) (ending : Ending) : Result :=
  .completed
    (String.ofList (decode (s.channel .standard).drained ++ decode (s.channel .error).drained))
    ending.exitCode

/-- Some schedule ends in the result `r`. -/
def Returns (capacity : Stream → ℕ+) (writes : List Write) (ending : Ending) (r : Result) : Prop :=
  ∃ s, Reaches capacity writes s ∧ s.IsComplete ∧ s.result ending = r

/-! ### No byte is lost -/

/-- The bytes that are written to a stream were read from its pipe, are in the pipe or are ahead, in
this order, and nothing more comes on a stream that has ended. -/
structure Accounts (writes ahead : List Write) (stream : Stream) (channel : Channel) : Prop where
  bytes : channel.drained ++ channel.piped ++ bytesOf stream ahead = bytesOf stream writes
  ended : channel.ended = true → channel.piped = [] ∧ ∀ w ∈ ahead, w.stream ≠ stream

/-- Every byte is accounted for. -/
def Account (writes : List Write) (s : Capture) : Prop :=
  ∀ stream, Accounts writes s.ahead stream (s.channel stream)

theorem account_start (writes : List Write) : Account writes (start writes) :=
  fun _ => ⟨rfl, fun h => by simp [start] at h⟩

theorem Account.step (h : Account writes s) (hstep : Step capacity s t) : Account writes t := by
  cases hstep with
  | @write stream part bytes more next nonempty fits =>
    refine (Function.forall_update_iff _ fun stream => Accounts writes _ stream).2
      ⟨⟨?_, fun hended => ?_⟩, fun stream' hne => ⟨?_, fun hended => ?_⟩⟩
    · simpa [next] using (h stream).bytes
    · -- A stream that something is written to has not ended.
      exact absurd rfl (((h stream).ended hended).2 ⟨stream, part ++ bytes⟩ (by simp [next]))
    · simpa [next, Ne.symm hne] using (h stream').bytes
    · simpa [next, Ne.symm hne] using (h stream').ended hended
  | @written stream more next =>
    refine fun stream' => ⟨?_, fun hended => ?_⟩
    · simpa [next] using (h stream').bytes
    · obtain ⟨hpiped, hahead⟩ := (h stream').ended hended
      exact ⟨hpiped, fun w hw => hahead w (next ▸ List.mem_cons_of_mem _ hw)⟩
  | @read stream part bytes next nonempty =>
    refine (Function.forall_update_iff _ fun stream => Accounts writes _ stream).2
      ⟨⟨?_, fun hended => ?_⟩, fun stream' _ => h stream'⟩
    · simpa [next] using (h stream).bytes
    · obtain ⟨hpiped, hahead⟩ := (h stream).ended hended
      rw [next] at hpiped
      exact ⟨(List.append_eq_nil_iff.1 hpiped).2, hahead⟩
  | @close stream unwritten empty unended =>
    exact (Function.forall_update_iff _ fun stream => Accounts writes _ stream).2
      ⟨⟨(h stream).bytes, fun _ => ⟨empty, unwritten⟩⟩, fun stream' _ => h stream'⟩
  | exit running => exact h

theorem Reaches.account (h : Reaches capacity writes s) : Account writes s := by
  induction h with
  | refl => exact account_start writes
  | tail _ hstep ih => exact ih.step hstep

/-- Once all is collected, what was read from a pipe is what was written to the stream. -/
theorem Account.drained_eq (h : Account writes s) (hs : s.IsComplete) (stream : Stream) :
    (s.channel stream).drained = bytesOf stream writes := by
  obtain ⟨hpiped, hahead⟩ := (h stream).ended (hs.2 stream)
  have hbytes := (h stream).bytes
  rwa [hpiped, bytesOf_eq_nil hahead, List.append_nil, List.append_nil] at hbytes

theorem Account.result_eq (h : Account writes s) (hs : s.IsComplete) (ending : Ending) :
    s.result ending = (Launch.finished writes ending).result := by
  simp only [result, Launch.result, outputOf, h.drained_eq hs]

/-! ### Every schedule ends -/

/-- How much is left to happen to a channel. -/
def channelWork (channel : Channel) : ℕ := channel.piped.length + if channel.ended then 0 else 1

/-- How much is left to happen to the channels. -/
def channelsWork (channel : Stream → Channel) : ℕ :=
  channelWork (channel .standard) + channelWork (channel .error)

/-- How much is left to happen. A byte that is ahead has to be written and to be read. -/
def work (s : Capture) : ℕ :=
  2 * (s.ahead.flatMap Write.bytes).length + s.ahead.length + channelsWork s.channel +
    if s.exited then 0 else 1

theorem channelsWork_update (channel : Stream → Channel) (stream : Stream) (c : Channel) :
    channelsWork (Function.update channel stream c) + channelWork (channel stream) =
      channelsWork channel + channelWork c := by
  cases stream <;> simp [channelsWork] <;> omega

theorem Step.work_lt (h : Step capacity s t) : t.work < s.work := by
  cases h with
  | @write stream part bytes more next nonempty fits =>
    have hsum := channelsWork_update s.channel stream
      { s.channel stream with piped := (s.channel stream).piped ++ part }
    have hpart := List.length_pos_iff.2 nonempty
    simp only [channelWork, List.length_append] at hsum
    simp only [work, next, List.flatMap_cons, List.length_cons, List.length_append]
    omega
  | @written stream more next =>
    simp only [work, next, List.flatMap_cons, List.length_cons, List.nil_append]
    omega
  | @read stream part bytes next nonempty =>
    have hsum := channelsWork_update s.channel stream
      { s.channel stream with piped := bytes, drained := (s.channel stream).drained ++ part }
    have hpart := List.length_pos_iff.2 nonempty
    simp only [channelWork, next, List.length_append] at hsum
    simp only [work]
    omega
  | @close stream unwritten empty unended =>
    have hsum := channelsWork_update s.channel stream { s.channel stream with ended := true }
    simp only [channelWork, unended, if_true, Bool.false_eq_true, if_false] at hsum
    simp only [work]
    omega
  | exit running => simp [work, running]

theorem wellFounded_step (capacity : Stream → ℕ+) :
    WellFounded fun t s => Step capacity s t :=
  Subrelation.wf Step.work_lt (measure work).wf

theorem exists_step_of_piped (h : (s.channel stream).piped ≠ []) : ∃ t, Step capacity s t :=
  ⟨_, .read (List.append_nil _).symm h⟩

/-- Until all is collected something can happen: where a pipe has no room, it can be read from. -/
theorem exists_step (capacity : Stream → ℕ+) (h : ¬ s.IsComplete) :
    ∃ t, Step capacity s t := by
  by_cases hpiped : ∃ stream, (s.channel stream).piped ≠ []
  · obtain ⟨stream, hstream⟩ := hpiped
    exact exists_step_of_piped hstream
  · have hempty : ∀ stream, (s.channel stream).piped = [] := by simpa using hpiped
    rcases hahead : s.ahead with _ | ⟨⟨stream, _ | ⟨b, bytes⟩⟩, more⟩
    · by_cases hended : ∀ stream, (s.channel stream).ended = true
      · have hrunning : s.exited = false := Bool.eq_false_iff.2 fun hexited => h ⟨hexited, hended⟩
        exact ⟨_, .exit hrunning⟩
      · obtain ⟨stream, hstream⟩ := not_forall.1 hended
        exact ⟨_, .close (by simp [hahead]) (hempty stream) (Bool.eq_false_iff.2 hstream)⟩
    · exact ⟨_, .written hahead⟩
    · have hfits : (s.channel stream).piped.length + [b].length ≤ capacity stream := by
        rw [hempty stream]
        exact (capacity stream).pos
      exact ⟨_, @Step.write capacity s stream [b] bytes more hahead (by simp) hfits⟩

theorem exists_isComplete (capacity : Stream → ℕ+) (s : Capture) :
    ∃ t, Relation.ReflTransGen (Step capacity) s t ∧ t.IsComplete := by
  -- Any step will do: whichever is taken, less is left to happen.
  induction s using (wellFounded_step capacity).induction with
  | h s ih =>
    by_cases hs : s.IsComplete
    · exact ⟨s, .refl, hs⟩
    · obtain ⟨t, hstep⟩ := exists_step capacity hs
      obtain ⟨u, htu, hu⟩ := ih t hstep
      exact ⟨u, .head hstep htu, hu⟩

/-- Whatever the schedule, the result is the one that the writes are put together to. -/
theorem returns_iff {r : Result} :
    Returns capacity writes ending r ↔ r = (Launch.finished writes ending).result := by
  constructor
  · rintro ⟨s, hreach, hs, rfl⟩
    exact hreach.account.result_eq hs ending
  · rintro rfl
    obtain ⟨s, hreach, hs⟩ := exists_isComplete capacity (start writes)
    have hreaches : Reaches capacity writes s := hreach
    exact ⟨s, hreaches, hs, hreaches.account.result_eq hs ending⟩

/-! ### What is collected -/

theorem result_finished (writes : List Write) (ending : Ending) :
    (Launch.finished writes ending).result =
      .completed
        (String.ofList (decode (bytesOf .standard writes) ++ decode (bytesOf .error writes)))
        ending.exitCode :=
  rfl

theorem Returns.toList_output {r : Result} (h : Returns capacity writes ending r) :
    r.output.toList = decode (bytesOf .standard writes) ++ decode (bytesOf .error writes) := by
  rw [returns_iff.1 h, result_finished, Result.completed, String.toList_ofList]

theorem Returns.congr {capacity' : Stream → ℕ+} {writes' : List Write} {r r' : Result}
    (h : Returns capacity writes ending r) (h' : Returns capacity' writes' ending r')
    (hbytes : ∀ stream, bytesOf stream writes = bytesOf stream writes') : r = r' := by
  rw [returns_iff.1 h, returns_iff.1 h', Launch.result, Launch.result, outputOf_congr hbytes]

/-- What is encoded text in both streams is kept byte for byte. -/
theorem Returns.encode_output {r : Result} (h : Returns capacity writes ending r)
    {out err : List Char} (hout : bytesOf .standard writes = encode out)
    (herr : bytesOf .error writes = encode err) :
    encode r.output.toList = bytesOf .standard writes ++ bytesOf .error writes := by
  rw [h.toList_output, hout, herr, decode_encode, decode_encode, encode_append]

/-- A character that the standard output is cut off in is not completed by the other stream. -/
theorem Returns.toList_output_of_cut {r : Result} (h : Returns capacity writes ending r)
    {before part : List UInt8} {ch : Char} (hpart : part <+: String.utf8EncodeChar ch)
    (hne : part ≠ []) (hcut : part ≠ String.utf8EncodeChar ch)
    (hout : bytesOf .standard writes = before ++ part) :
    r.output.toList = decode before ++ replacement :: decode (bytesOf .error writes) := by
  rw [h.toList_output, hout, decode_append_of_isPrefix hpart hne hcut, List.append_assoc,
    List.singleton_append]

/-- Whatever a program writes in whatever chunks, its output is collected in finitely many steps, one
of which can always be taken, and the result is the lossy reading of the standard output and then
that of the other stream. So runs with the same bytes in each stream have the same result, the output
of a program that writes nothing but encoded text is exactly what it wrote, and a character that the
standard output ends in the middle of is not completed by what comes from the other stream. -/
theorem collected_independent_of_schedule (capacity : Stream → ℕ+) (writes : List Write)
    (ending : Ending) :
    (WellFounded fun t s => Step capacity s t) ∧
    (∀ s, Reaches capacity writes s → ¬ s.IsComplete → ∃ t, Step capacity s t) ∧
    (∀ r, Returns capacity writes ending r ↔ r = (Launch.finished writes ending).result) ∧
    (∃ out err,
      (∀ text, Reads (bytesOf .standard writes) text ↔ text = out) ∧
      (∀ text, Reads (bytesOf .error writes) text ↔ text = err) ∧
      ∀ r, Returns capacity writes ending r ↔
        r = .completed (String.ofList (out ++ err)) ending.exitCode) ∧
    (∀ (capacity' : Stream → ℕ+) (writes' : List Write) (r r' : Result),
      (∀ stream, bytesOf stream writes = bytesOf stream writes') →
        Returns capacity writes ending r → Returns capacity' writes' ending r' → r = r') ∧
    (∀ (out err : List Char) (r : Result),
      bytesOf .standard writes = encode out → bytesOf .error writes = encode err →
        Returns capacity writes ending r →
          encode r.output.toList = bytesOf .standard writes ++ bytesOf .error writes) ∧
    ∀ (before part : List UInt8) (ch : Char) (r : Result),
      bytesOf .standard writes = before ++ part → part <+: String.utf8EncodeChar ch → part ≠ [] →
        part ≠ String.utf8EncodeChar ch → Returns capacity writes ending r →
          r.output.toList = decode before ++ replacement :: decode (bytesOf .error writes) := by
  refine ⟨wellFounded_step capacity, fun _ _ => exists_step capacity, fun _ => returns_iff,
    ?_, ?_, ?_, ?_⟩
  · refine ⟨decode (bytesOf .standard writes), decode (bytesOf .error writes), ?_, ?_, ?_⟩
    · exact fun text => reads_iff.trans eq_comm
    · exact fun text => reads_iff.trans eq_comm
    · exact fun r => returns_iff
  · exact fun capacity' writes' r r' hbytes h h' => h.congr h' hbytes
  · exact fun out err r hout herr h => h.encode_output hout herr
  · exact fun before part ch r hout hpart hne hcut h => h.toList_output_of_cut hpart hne hcut hout

/-- Two of the three bytes of a character go to the standard output, the third to the other one. -/
theorem collected_independent_of_schedule_cut :
    String.utf8EncodeChar '€' = [0xE2, 0x82, 0xAC] ∧
      ∀ r, Returns (fun _ => 1)
        [⟨.standard, [0xE2]⟩, ⟨.error, [0xAC]⟩, ⟨.standard, [0x82]⟩] (.exited 0) r →
          r.output.toList = [replacement, replacement] := by
  refine ⟨by decide, fun r h => ?_⟩
  have hcut := (collected_independent_of_schedule _ _ _).2.2.2.2.2.2 [] [0xE2, 0x82] '€' r (by simp)
    ⟨[0xAC], by decide⟩ (by simp) (by decide) h
  have hlast : decode [0xAC] = [replacement] := by
    simp [decode, decodeOnto, head]
  simpa [hlast] using hcut

end Capture

end Scratchpad.Execution
