-- Texts as bytes and back. The bytes of a character bring the decoder back to where a character
-- starts and give the character, so a text is read back from its bytes with no replacement
-- character added.
import CorpusSearch.Text.Utf8

namespace CorpusSearch.Text

deriving instance DecidableEq for Utf8State

variable {state : Utf8State} {byte : Nat}

/-! ## One byte -/

theorem utf8Step_ascii (h : byte < 0x80) : utf8Step {} byte = ([Char.ofNat byte], {}) := by
  simp [utf8Step, utf8Start, h]

theorem utf8Step_two : ∀ bits < 32, 2 ≤ bits →
    utf8Step {} (0xC0 + bits) = ([], { missing := 1, bits }) := by
  decide

/-- Of three bytes the second one is bounded where the form could be overlong or a surrogate. -/
theorem utf8Step_three : ∀ bits < 16, utf8Step {} (0xE0 + bits) =
    ([], { missing := 2, low := if bits = 0 then 0xA0 else 0x80,
           high := if bits = 13 then 0x9F else 0xBF, bits }) := by
  decide

/-- Of four bytes the second one is bounded where the form could be overlong or past the last
character. -/
theorem utf8Step_four : ∀ bits < 5, utf8Step {} (0xF0 + bits) =
    ([], { missing := 3, low := if bits = 0 then 0x90 else 0x80,
           high := if bits = 4 then 0x8F else 0xBF, bits }) := by
  decide

theorem utf8Step_more (hmissing : 1 < state.missing) (hlow : state.low ≤ byte)
    (hhigh : byte ≤ state.high) : utf8Step state byte =
      ([], { missing := state.missing - 1, bits := state.bits * 64 + (byte - 0x80) }) := by
  have hzero : state.missing ≠ 0 := by omega
  have hone : state.missing ≠ 1 := by omega
  simp [utf8Step, hzero, hone, hlow, hhigh]

theorem utf8Step_last (hmissing : state.missing = 1) (hlow : state.low ≤ byte)
    (hhigh : byte ≤ state.high) : utf8Step state byte =
      ([Char.ofNat (state.bits * 64 + (byte - 0x80))], {}) := by
  simp [utf8Step, hmissing, hlow, hhigh]

/-! ## Whole texts -/

theorem ofUtf8From_cons (state : Utf8State) {code : Nat} (h : code < 256) (rest : List UInt8) :
    ofUtf8From state (UInt8.ofNat code :: rest) =
      (utf8Step state code).1 ++ ofUtf8From (utf8Step state code).2 rest := by
  rw [ofUtf8From, UInt8.toNat_ofNat_of_lt' h]

variable {code : Nat} {rest : List UInt8}

theorem ofUtf8From_two (hlow : 0x80 ≤ code) (hhigh : code ≤ 0x7FF) :
    ofUtf8From {} (UInt8.ofNat (code / 64 % 32 + 0xC0) :: UInt8.ofNat (code % 64 + 0x80) :: rest) =
      Char.ofNat code :: ofUtf8From {} rest := by
  have hlead := utf8Step_two (code / 64 % 32) (by omega) (by omega)
  rw [ofUtf8From_cons _ (by omega), Nat.add_comm, hlead, List.nil_append,
    ofUtf8From_cons _ (by omega), utf8Step_last rfl (by dsimp only; omega) (by dsimp only; omega)]
  dsimp only
  rw [show code / 64 % 32 * 64 + (code % 64 + 0x80 - 0x80) = code by omega, List.singleton_append]

theorem ofUtf8From_three (hlow : 0x800 ≤ code) (hhigh : code ≤ 0xFFFF)
    (hsurrogate : code < 0xD800 ∨ 0xDFFF < code) :
    ofUtf8From {} (UInt8.ofNat (code / 4096 % 16 + 0xE0) :: UInt8.ofNat (code / 64 % 64 + 0x80) ::
        UInt8.ofNat (code % 64 + 0x80) :: rest) =
      Char.ofNat code :: ofUtf8From {} rest := by
  have hlead := utf8Step_three (code / 4096 % 16) (by omega)
  rw [ofUtf8From_cons _ (by omega), Nat.add_comm, hlead, List.nil_append,
    ofUtf8From_cons _ (by omega),
    utf8Step_more (by dsimp only; omega) (by dsimp only; split <;> omega)
      (by dsimp only; split <;> omega), List.nil_append,
    ofUtf8From_cons _ (by omega), utf8Step_last rfl (by dsimp only; omega) (by dsimp only; omega)]
  dsimp only
  rw [show (code / 4096 % 16 * 64 + (code / 64 % 64 + 0x80 - 0x80)) * 64 +
    (code % 64 + 0x80 - 0x80) = code by omega, List.singleton_append]

theorem ofUtf8From_four (hlow : 0x10000 ≤ code) (hhigh : code < 0x110000) :
    ofUtf8From {} (UInt8.ofNat (code / 262144 % 8 + 0xF0) ::
        UInt8.ofNat (code / 4096 % 64 + 0x80) :: UInt8.ofNat (code / 64 % 64 + 0x80) ::
        UInt8.ofNat (code % 64 + 0x80) :: rest) =
      Char.ofNat code :: ofUtf8From {} rest := by
  have hlead := utf8Step_four (code / 262144 % 8) (by omega)
  rw [ofUtf8From_cons _ (by omega), Nat.add_comm, hlead, List.nil_append,
    ofUtf8From_cons _ (by omega),
    utf8Step_more (by dsimp only; omega) (by dsimp only; split <;> omega)
      (by dsimp only; split <;> omega), List.nil_append,
    ofUtf8From_cons _ (by omega), utf8Step_more (by dsimp only; omega) (by dsimp only; omega)
      (by dsimp only; omega), List.nil_append,
    ofUtf8From_cons _ (by omega), utf8Step_last rfl (by dsimp only; omega) (by dsimp only; omega)]
  dsimp only
  rw [show ((code / 262144 % 8 * 64 + (code / 4096 % 64 + 0x80 - 0x80)) * 64 +
    (code / 64 % 64 + 0x80 - 0x80)) * 64 + (code % 64 + 0x80 - 0x80) = code by omega,
    List.singleton_append]

theorem ofUtf8From_utf8EncodeChar (c : Char) (rest : List UInt8) :
    ofUtf8From {} (String.utf8EncodeChar c ++ rest) = c :: ofUtf8From {} rest := by
  have hvalid : c.toNat < 0xD800 ∨ 0xDFFF < c.toNat ∧ c.toNat < 0x110000 := c.valid
  unfold String.utf8EncodeChar
  simp only [show c.val.toNat = c.toNat from rfl]
  split
  · rw [List.singleton_append, ofUtf8From_cons _ (by omega), utf8Step_ascii (by omega),
      Char.ofNat_toNat, List.singleton_append]
  · split
    · have htwo := @ofUtf8From_two c.toNat rest (by omega) (by omega)
      rwa [Char.ofNat_toNat] at htwo
    · split
      · have hthree := @ofUtf8From_three c.toNat rest (by omega) (by omega) (by omega)
        rwa [Char.ofNat_toNat] at hthree
      · have hfour := @ofUtf8From_four c.toNat rest (by omega) (by omega)
        rwa [Char.ofNat_toNat] at hfour

theorem ofUtf8_utf8 (text : Text) : ofUtf8 text.utf8 = text := by
  unfold ofUtf8 utf8
  induction text with
  | nil => rfl
  | cons c text ih => rw [List.flatMap_cons, ofUtf8From_utf8EncodeChar, ih]

end CorpusSearch.Text
