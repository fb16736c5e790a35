-- Raw texts and the texts that they are: what has no halves is encoded as the one text that it is,
-- and everything else is refused.
import CorpusSearch.Text.Raw
import Mathlib.Data.List.Basic

namespace CorpusSearch.RawText

variable {raw : RawText} {text : Text}

theorem encodeFrom_raw (position : Nat) (text : Text) :
    encodeFrom position text.raw = .ok text := by
  induction text generalizing position with
  | nil => rfl
  | cons c rest ih =>
    change (encodeFrom (position + 1) (Text.raw rest)).map (c :: ·) = _
    rw [ih]
    rfl

theorem encodeFrom_cases (position : Nat) (raw : RawText) :
    (∃ text : Text, raw = text.raw) ∨
      raw.HasHalf ∧ ∃ fault, encodeFrom position raw = .error fault := by
  induction raw generalizing position with
  | nil => exact .inl ⟨[], rfl⟩
  | cons letter rest ih =>
    cases letter with
    | half half => exact .inr ⟨⟨half, List.mem_cons_self ..⟩, _, rfl⟩
    | char c =>
      rcases ih (position + 1) with ⟨text, rfl⟩ | ⟨⟨half, hmem⟩, fault, hfault⟩
      · exact .inl ⟨c :: text, rfl⟩
      · refine .inr ⟨⟨half, List.mem_cons_of_mem _ hmem⟩, fault, ?_⟩
        rw [encodeFrom, hfault]
        rfl

theorem encode_raw (text : Text) : text.raw.encode = .ok text := encodeFrom_raw 0 text

/-- A raw text is a text, or it has a half and cannot be encoded. -/
theorem encode_cases (raw : RawText) :
    (∃ text : Text, raw = text.raw) ∨ raw.HasHalf ∧ ∃ fault, raw.encode = .error fault :=
  encodeFrom_cases 0 raw

theorem not_hasHalf_raw (text : Text) : ¬ HasHalf text.raw := by
  rintro ⟨half, hmem⟩
  obtain ⟨c, -, heq⟩ := List.mem_map.mp hmem
  cases heq

theorem filled_raw (mark : Char) (text : Text) : text.raw.filled mark = text := by
  unfold filled Text.raw
  rw [List.map_map]
  exact List.map_id _

end CorpusSearch.RawText
