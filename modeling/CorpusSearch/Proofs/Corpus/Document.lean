-- The work of searches adds up: documents, bytes and records are counted each by itself. A cap that
-- leaves out no document of a list leaves out none of a part of it.
import CorpusSearch.Corpus.Document
import Mathlib.Algebra.Group.Basic
import Mathlib.Data.List.TakeDrop

namespace CorpusSearch.Corpus

/-! ## Work -/

/-- The work of two searches together. -/
instance instAddStats : Add Stats where
  add stats other :=
    { documents := stats.documents + other.documents
      bytes := stats.bytes + other.bytes
      hits := stats.hits + other.hits }

instance instZeroStats : Zero Stats where
  zero := {}

namespace Stats

theorem eq_of {s t : Stats} (hdocuments : s.documents = t.documents) (hbytes : s.bytes = t.bytes)
    (hhits : s.hits = t.hits) : s = t := by
  cases s
  cases t
  simp_all

@[simp] theorem documents_add (s t : Stats) : (s + t).documents = s.documents + t.documents := rfl

@[simp] theorem bytes_add (s t : Stats) : (s + t).bytes = s.bytes + t.bytes := rfl

@[simp] theorem hits_add (s t : Stats) : (s + t).hits = s.hits + t.hits := rfl

@[simp] theorem documents_zero : (0 : Stats).documents = 0 := rfl

@[simp] theorem bytes_zero : (0 : Stats).bytes = 0 := rfl

@[simp] theorem hits_zero : (0 : Stats).hits = 0 := rfl

end Stats

instance instAddCommMonoidStats : AddCommMonoid Stats where
  add_assoc s t u := by apply Stats.eq_of <;> simp [Int.add_assoc]
  zero_add s := by apply Stats.eq_of <;> simp
  add_zero s := by apply Stats.eq_of <;> simp
  add_comm s t := by apply Stats.eq_of <;> simp [Int.add_comm]
  nsmul := nsmulRec

/-! ## Caps -/

/-- A cap leaves out no document exactly when it is as large as their count or there are none. -/
theorem withinCap_eq_self_iff {cap : Int} {documents : List Document} :
    withinCap cap documents = documents ↔ (documents.length : Int) ≤ cap ∨ documents = [] := by
  have hlength : documents = [] ↔ documents.length = 0 := List.length_eq_zero_iff.symm
  unfold withinCap Text.place
  rw [List.take_eq_self_iff, hlength]
  split <;> omega

theorem withinCap_of_le {cap : Int} {documents : List Document}
    (h : (documents.length : Int) ≤ cap) : withinCap cap documents = documents :=
  withinCap_eq_self_iff.mpr (Or.inl h)

/-- A cap that leaves out no document of two lists leaves out none of each. -/
theorem withinCap_of_append {cap : Int} {before behind : List Document}
    (h : withinCap cap (before ++ behind) = before ++ behind) :
    withinCap cap before = before ∧ withinCap cap behind = behind := by
  rcases withinCap_eq_self_iff.mp h with hle | hempty
  · rw [List.length_append] at hle
    exact ⟨withinCap_of_le (by omega), withinCap_of_le (by omega)⟩
  · rw [List.append_eq_nil_iff] at hempty
    exact ⟨withinCap_eq_self_iff.mpr (Or.inr hempty.1), withinCap_eq_self_iff.mpr (Or.inr hempty.2)⟩

end CorpusSearch.Corpus
