import ClassRename.Proofs.Edits.Splicing
import ClassRename.Proofs.Text.Utf8

/-! # Edits as replacements of bytes

Edits are made from the latest to the earliest, each in the text that those before it have left. What
comes out is the text read from left to right: its bytes up to the earliest edit, what that edit puts in
the place of its span, the bytes up to the next one, and so on. With each span's own bytes in its place
that is the text itself, so every byte outside of the spans is kept once and in its place.
-/

namespace ClassRename.Edit

open Text.Utf8 (Bytes encode)

variable {edits ordered : List Edit} {offset : Nat} {front text result : List Char}

/-- The bytes from an offset on, with those in the spans of the edits replaced. -/
def woven (fill : Edit → Bytes) (bytes : Bytes) : (offset : Nat) → List Edit → Bytes
  | offset, [] => bytes.drop offset
  | offset, edit :: later =>
    (bytes.drop offset).take (edit.span.start - offset) ++
      (fill edit ++ woven fill bytes edit.span.stop later)

/-- The bytes in a span. -/
def bytesIn (bytes : Bytes) (span : Span) : Bytes :=
  (bytes.drop span.start).take (span.stop - span.start)

/-- With the bytes of each span in its place, nothing is changed. -/
theorem woven_bytesIn {bytes : Bytes} (ordered : edits.Pairwise Precedes)
    (forwards : ∀ edit ∈ edits, edit.span.start ≤ edit.span.stop)
    (after : ∀ edit ∈ edits, offset ≤ edit.span.start) :
    woven (fun edit => bytesIn bytes edit.span) bytes offset edits = bytes.drop offset := by
  induction edits generalizing offset with
  | nil => rfl
  | cons edit later ih =>
    obtain ⟨first, ordered⟩ := List.pairwise_cons.1 ordered
    have start : offset ≤ edit.span.start := after edit List.mem_cons_self
    have stop : edit.span.start ≤ edit.span.stop := forwards edit List.mem_cons_self
    have rest := ih ordered (fun edit isLater => forwards edit (List.mem_cons_of_mem _ isLater)) first
    have inside : bytesIn bytes edit.span ++ bytes.drop edit.span.stop = bytes.drop edit.span.start := by
      have split := List.take_append_drop (edit.span.stop - edit.span.start)
        (bytes.drop edit.span.start)
      rwa [List.drop_drop, Nat.add_sub_cancel' stop] at split
    have gap := List.take_append_drop (edit.span.start - offset) (bytes.drop offset)
    rw [List.drop_drop, Nat.add_sub_cancel' start] at gap
    rw [woven, rest, inside, gap]

/-- A text has as many bytes as its size says. -/
theorem length_flatMap_utf8EncodeChar (text : List Char) :
    (text.flatMap String.utf8EncodeChar).length = byteLength text := by
  induction text with
  | nil => rfl
  | cons c rest ih => simp [ih]

/-- What is put together from left to right has the bytes of the text, with those in the spans
replaced. -/
theorem Splices.flatMap_utf8EncodeChar (splices : Splices offset edits text result)
    (front : List Char) (here : byteLength front = offset) :
    result.flatMap String.utf8EncodeChar =
      woven (fun edit => encode edit.replacement)
        ((front ++ text).flatMap String.utf8EncodeChar) offset edits := by
  induction splices generalizing front with
  | done offset text =>
    rw [woven, List.flatMap_append, List.drop_left']
    rw [length_flatMap_utf8EncodeChar, here]
  | @next offset edit later gap old text result span _ ih =>
    have size : byteLength (front ++ (gap ++ old)) = offset + byteLength (gap ++ old) := by
      rw [byteLength_append, here]
    have rest := ih _ size
    have regroup : front ++ (gap ++ old) ++ text = front ++ (gap ++ (old ++ text)) := by simp
    have kept : (((front ++ (gap ++ (old ++ text))).flatMap String.utf8EncodeChar).drop offset).take
        (byteLength gap) = gap.flatMap String.utf8EncodeChar := by
      rw [List.flatMap_append, List.drop_left' (by rw [length_flatMap_utf8EncodeChar, here]),
        List.flatMap_append, List.take_left' (length_flatMap_utf8EncodeChar gap)]
    rw [regroup] at rest
    rw [woven, span, Nat.add_sub_cancel_left, kept, ← rest, List.flatMap_append, List.flatMap_append]
    rfl

/-- Different texts have different bytes. -/
theorem encode_inj {text text' : String} (same : encode text = encode text') : text = text' := by
  have read := Text.Utf8.decode_encode text
  rw [same, Text.Utf8.decode_encode text'] at read
  exact (Except.ok.inj read).symm

/-- Edits that fit are made if their ends are between characters, and else there is an error. -/
theorem applyAll_of_fits {source : String}
    (fits : Fits (byteLength source.toList) (latestFirst edits)) :
    (∃ result, applyAll source edits = .ok result ∧
      (∀ edit ∈ edits, BetweenChars source.toList edit.span.start ∧
        BetweenChars source.toList edit.span.stop) ∧
      encode result = woven (fun edit => encode edit.replacement) (encode source) 0
        (latestFirst edits).reverse) ∨
    applyAll source edits = .error .insideCharacter ∧
      ∃ edit ∈ edits, ¬(BetweenChars source.toList edit.span.start ∧
        BetweenChars source.toList edit.span.stop) := by
  have member (edit : Edit) : edit ∈ latestFirst edits ↔ edit ∈ edits :=
    (latestFirst_ordered edits).perm.mem_iff
  have forwards (edit : Edit) (isEdit : edit ∈ latestFirst edits) : edit.span.start ≤ edit.span.stop :=
    (fits.inside edit isEdit).1
  by_cases between : ∀ edit ∈ edits, BetweenChars source.toList edit.span.start ∧
      BetweenChars source.toList edit.span.stop
  · left
    have held : ∀ edit ∈ latestFirst edits, ∃ old, Holds source.toList edit.span old :=
      fun edit isEdit =>
        exists_holds_iff.2 ⟨forwards edit isEdit, between edit ((member edit).1 isEdit)⟩
    obtain ⟨result, made, splices⟩ := fits.exists_foldlM held
    refine ⟨String.ofList result, ?_, between, ?_⟩
    · simp only [applyAll, fits.check_eq_ok, made]
      rfl
    · rw [encode, String.toList_ofList]
      exact splices.flatMap_utf8EncodeChar [] rfl
  · right
    have unmade : (latestFirst edits).foldlM replace? source.toList = none := by
      refine Option.eq_none_iff_forall_not_mem.2 fun result made => between fun edit isEdit => ?_
      have held := holds_of_foldlM fits.pairwise forwards made edit ((member edit).2 isEdit)
      exact (exists_holds_iff.1 held).2
    push Not at between
    refine ⟨?_, ?_⟩
    · simp only [applyAll, fits.check_eq_ok, unmade]
      rfl
    · obtain ⟨edit, isEdit, inside⟩ := between
      exact ⟨edit, isEdit, fun ends => inside ends.1 ends.2⟩

/-- Edits that do not fit are refused for the first that does not. -/
theorem FirstMisfit.applyAll_eq {source : String} {error : EditError}
    (misfit : FirstMisfit (byteLength source.toList) (latestFirst edits) error) :
    applyAll source edits = .error error := by
  simp only [applyAll, misfit.check_eq_error]
  rfl

/-- What comes of edits, taken with the later starts first. They are made exactly if they fit and the
ends of their spans are between characters; then the result has the bytes of the source from left to
right, with those in the spans replaced and all others kept. If they do not fit, the error is that of the
first that does not, and if they fit but one of them begins or ends inside a character, it is that. -/
theorem applyAll_woven (source : String) (edits : List Edit) :
    LatestFirst edits (latestFirst edits) ∧
    (∀ result, applyAll source edits = .ok result ↔
      Fits (byteLength source.toList) (latestFirst edits) ∧
      (∀ edit ∈ edits, BetweenChars source.toList edit.span.start ∧
        BetweenChars source.toList edit.span.stop) ∧
      encode result = woven (fun edit => encode edit.replacement) (encode source) 0
        (latestFirst edits).reverse) ∧
    (∀ error, applyAll source edits = .error error ↔
      FirstMisfit (byteLength source.toList) (latestFirst edits) error ∨
      error = .insideCharacter ∧ Fits (byteLength source.toList) (latestFirst edits) ∧
        ∃ edit ∈ edits, ¬(BetweenChars source.toList edit.span.start ∧
          BetweenChars source.toList edit.span.stop)) ∧
    (Fits (byteLength source.toList) (latestFirst edits) ↔
      ∀ error, ¬FirstMisfit (byteLength source.toList) (latestFirst edits) error) ∧
    (Fits (byteLength source.toList) (latestFirst edits) →
      woven (fun edit => bytesIn (encode source) edit.span) (encode source) 0
        (latestFirst edits).reverse = encode source) := by
  have order := latestFirst_ordered edits
  refine ⟨order, fun result => ⟨fun made => ?_, ?_⟩, fun error => ⟨fun failed => ?_, ?_⟩,
    ⟨fun fits error misfit => ?_, fun noMisfit => ?_⟩, fun fits => ?_⟩
  · rcases fits_or_firstMisfit (byteLength source.toList) (latestFirst edits) with
      fits | ⟨error, misfit⟩
    · rcases applyAll_of_fits fits with ⟨result', made', between, bytes⟩ | ⟨failed, -⟩
      · cases made'.symm.trans made
        exact ⟨fits, between, bytes⟩
      · cases failed.symm.trans made
    · cases misfit.applyAll_eq.symm.trans made
  · rintro ⟨fits, between, bytes⟩
    rcases applyAll_of_fits fits with ⟨result', made, -, bytes'⟩ | ⟨-, edit, isEdit, inside⟩
    · rw [made, encode_inj (bytes.trans bytes'.symm)]
    · exact absurd (between edit isEdit) inside
  · rcases fits_or_firstMisfit (byteLength source.toList) (latestFirst edits) with
      fits | ⟨error', misfit⟩
    · rcases applyAll_of_fits fits with ⟨result, made, -⟩ | ⟨failed', inside⟩
      · cases made.symm.trans failed
      · cases failed'.symm.trans failed
        exact .inr ⟨rfl, fits, inside⟩
    · cases misfit.applyAll_eq.symm.trans failed
      exact .inl misfit
  · rintro (misfit | ⟨rfl, fits, edit, isEdit, inside⟩)
    · exact misfit.applyAll_eq
    · rcases applyAll_of_fits fits with ⟨result, -, between, -⟩ | ⟨failed, -⟩
      · exact absurd (between edit isEdit) inside
      · exact failed
  · cases fits.check_eq_ok.symm.trans misfit.check_eq_error
  · exact (fits_or_firstMisfit _ _).resolve_right fun ⟨error, misfit⟩ => noMisfit error misfit
  · refine woven_bytesIn (List.pairwise_reverse.2 fits.pairwise) (fun edit isEdit => ?_)
      (fun edit _ => Nat.zero_le _)
    exact (fits.inside edit (List.mem_reverse.1 isEdit)).1

end ClassRename.Edit
