import CartBoot.CommandLine.Run
import CartBoot.Proofs.Text.Fields
import CartBoot.Proofs.Text.Lines

/-!
# What streams take

A run prints nothing that its standard output does not take. Everything in a report or in a terse
record is a character, except for the media format of the header: on a UTF-8 output it depends on
that one word of an image whether what is to be printed about it can be written.
-/

namespace CartBoot

namespace CommandLine

namespace Stream

variable {s : Stream}

theorem takes_nil : s.Takes [] := fun _ hc => nomatch hc

theorem takes_append_iff {front back : Text} :
    s.Takes (front ++ back) ↔ s.Takes front ∧ s.Takes back :=
  List.forall_mem_append

theorem takes_of_ascii {text : String} (ascii : text.toList.all (·.toNat < 0x80) = true) :
    s.Takes text := by
  rw [Takes, Text.ofString, List.forall_mem_map]
  exact fun c hc => s.has_of_ascii (.ofChar c) (of_decide_eq_true (List.all_eq_true.mp ascii c hc))

theorem takes_of_write {text written : Text} (h : s.write text = .ok written) :
    s.Takes written := by
  rw [write] at h
  split at h
  next taken =>
    cases h
    exact taken
  next => cases h

-- A refusal names the first code point that is refused and its place.
example : (utf8.write ("media " ++ Text.codePoint 0xD800)).mapError Breakdown.message =
    .error "'utf-8' codec can't encode character '\\ud800' in position 6: surrogates not allowed" :=
  rfl

/-! ## Characters -/

/-- Nothing is escaped in a text that UTF-8 takes. -/
theorem ofString_escaped {text : Text} (taken : utf8.Takes text) :
    Text.ofString text.escaped = text := by
  rw [Text.escaped, Text.ofString, String.toList_ofList]
  induction text with
  | nil => rfl
  | cons c text ih =>
    rw [Takes, List.forall_mem_cons] at taken
    have valid : c.val.isValidChar := of_decide_eq_true taken.1
    have hchar : CodePoint.ofChar (Char.ofNat c.val) = c := by
      rw [CodePoint.ofChar, Fin.ext_iff, Char.ofNat, dif_pos valid]
      rfl
    rw [List.flatMap_cons, List.map_append, ih taken.2, CodePoint.char?, if_pos valid]
    exact congrArg (· :: text) hchar

end Stream

end CommandLine

/-! ## Reports -/

open CommandLine Stream

namespace Header

variable (h : Header)

end Header

namespace Profile

variable (p : Profile) {room : Nat} {config : ReportConfig}

end Profile

/-! ## Runs -/

namespace CommandLine

section Runs

variable {host : Host} {files : Files} {o : Options} {index : Nat} {past : List Event}

/-- A composed computation that gives a result has given one before. -/
theorem exists_of_bind_eq_ok {α β : Type} {first : Except Breakdown α}
    {next : α → Except Breakdown β} {result : β} (h : (first >>= next) = .ok result) :
    ∃ value, first = .ok value ∧ next value = .ok result := by
  cases first with
  | error breakdown => cases h
  | ok value => exact ⟨value, rfl, h⟩

namespace Entry

theorem takes_of_output {p : Profile} {out : Text} (h : output host o index p = .ok out) :
    host.out.Takes out := by
  obtain ⟨body, -, h⟩ := exists_of_bind_eq_ok h
  obtain ⟨written, hwrite, h⟩ := exists_of_bind_eq_ok h
  have newline : host.out.Takes "\n" := Stream.takes_of_ascii (by decide)
  cases h
  rw [Stream.takes_append_iff, Stream.takes_append_iff]
  refine ⟨⟨?_, Stream.takes_of_write hwrite⟩, newline⟩
  split
  next => exact Stream.takes_nil
  next => exact newline

theorem takes_of_ofBytes {image : String} {raw : Bytes} {entry : Entry}
    (h : ofBytes host o index image raw = .ok entry) : host.out.Takes entry.out := by
  rw [ofBytes] at h
  split at h
  next =>
    split at h
    next => cases h
    next =>
      obtain ⟨out, houtput, h⟩ := exists_of_bind_eq_ok h
      cases h
      exact takes_of_output houtput
  next =>
    split at h
    next =>
      cases h
      exact Stream.takes_nil
    next => cases h

theorem takes_of_ofImage {image : String} {entry : Entry}
    (h : Entry.ofImage host files o index past image = .ok entry) : host.out.Takes entry.out := by
  rw [Entry.ofImage] at h
  split at h
  next => cases h
  next =>
    split at h
    next =>
      cases h
      exact Stream.takes_nil
    next => exact takes_of_ofBytes h

end Entry

namespace Batch

theorem takes_of_entries {images : List String} {done : List (String × Entry)}
    (h : entries host files o index past images = .ok done) :
    ∀ e ∈ done, host.out.Takes e.2.out := by
  induction images generalizing index past done with
  | nil =>
    cases h
    exact fun _ he => nomatch he
  | cons image rest ih =>
    obtain ⟨entry, hentry, h⟩ := exists_of_bind_eq_ok h
    have hfirst := Entry.takes_of_ofImage hentry
    split at h
    next =>
      cases h
      exact List.forall_mem_singleton.mpr hfirst
    next =>
      obtain ⟨later, hlater, h⟩ := exists_of_bind_eq_ok h
      cases h
      exact List.forall_mem_cons.mpr ⟨hfirst, ih hlater⟩

theorem takes_of_run {outcome : Outcome} (h : run host files o = .ok outcome) :
    host.out.Takes outcome.out := by
  obtain ⟨top, htop, h⟩ := exists_of_bind_eq_ok h
  obtain ⟨done, hdone, h⟩ := exists_of_bind_eq_ok h
  cases h
  refine Stream.takes_append_iff.mpr ⟨Stream.takes_of_write htop, ?_⟩
  intro c hc
  obtain ⟨out, hout, hc⟩ := List.mem_flatten.mp hc
  obtain ⟨e, he, rfl⟩ := List.mem_map.mp hout
  exact takes_of_entries hdone e he c hc

end Batch

theorem takes_of_respond {request : Request} {outcome : Outcome}
    (h : respond host files request = .ok outcome) : host.out.Takes outcome.out := by
  cases request with
  | help | version =>
    obtain ⟨out, hwrite, h⟩ := exists_of_bind_eq_ok h
    cases h
    exact Stream.takes_of_write hwrite
  | misused misuse =>
    cases h
    exact Stream.takes_nil
  | scan o =>
    rw [respond] at h
    split at h
    next => cases h
    next => exact Batch.takes_of_run h

/-- The standard output takes all that a run prints. In UTF-8 nothing of it needs an escape. -/
theorem takes_of_run {w : Workspace} {time : String} {arguments : List String} {outcome : Outcome}
    {after : Workspace} (h : run host w time arguments = .ok (outcome, after)) :
    host.out.Takes outcome.out ∧
      (host.out = .utf8 → Text.ofString outcome.out.escaped = outcome.out) := by
  obtain ⟨ready, -, h⟩ := exists_of_bind_eq_ok h
  obtain ⟨answer, hanswer, h⟩ := exists_of_bind_eq_ok h
  cases h
  have taken := takes_of_respond hanswer
  refine ⟨taken, ?_⟩
  intro utf8
  rw [utf8] at taken
  exact Stream.ofString_escaped taken

end Runs

end CommandLine

end CartBoot
