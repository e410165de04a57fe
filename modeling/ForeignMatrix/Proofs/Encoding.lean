import ForeignMatrix.Text.Hex
import ForeignMatrix.Text.Utf8
import Mathlib

/-!
# Encoded texts are read back

Reading the encoding of a text gives the text, character by character and
without a broken piece. The first byte of a character tells how many bytes
follow, and every one of them is in the range that is asked for. Likewise the
hexadecimal digits of a number, in either case, spell the number again.
-/

namespace ForeignMatrix.Text.Utf8

/-! ### Characters -/

/-- A number below 256 is a byte. -/
theorem toNat_byte {n : Nat} (h : n < 256) : (UInt8.ofNat n).toNat = n :=
  UInt8.toNat_ofNat_of_lt' h

/-- A byte after the first one of a character holds six bits of it. -/
def tailByte (bits : Nat) : UInt8 := .ofNat (bits % 0x40 + 0x80)

/-- A byte in the range asked for adds its six bits. -/
theorem continued_tailByte {low high bits : Nat} (hlow : low ≤ bits % 0x40 + 0x80)
    (hhigh : bits % 0x40 + 0x80 ≤ high) (count code : Nat) (rest : List UInt8) :
    continued (count + 1) low high code (tailByte bits :: rest) =
      continued count 0x80 0xbf (code * 64 + bits % 0x40) rest := by
  have hbyte : (tailByte bits).toNat = bits % 0x40 + 0x80 := toNat_byte (by omega)
  have hbits : (bits % 0x40 + 0x80) % 64 = bits % 0x40 := by omega
  rw [continued, hbyte, if_pos ⟨hlow, hhigh⟩, hbits]

/-- One more byte reads the last six bits of a character. -/
theorem continued_one {low high v : Nat} (hlow : low ≤ v % 0x40 + 0x80)
    (hhigh : v % 0x40 + 0x80 ≤ high) (code : Nat) (rest : List UInt8) :
    continued 1 low high code (tailByte v :: rest) =
      (some (Char.ofNat (code * 64 + v % 64)), rest) := by
  rw [continued_tailByte hlow hhigh, continued]

/-- Two more read the last twelve. -/
theorem continued_two {low high v : Nat} (hlow : low ≤ v / 64 % 0x40 + 0x80)
    (hhigh : v / 64 % 0x40 + 0x80 ≤ high) (code : Nat) (rest : List UInt8) :
    continued 2 low high code (tailByte (v / 64) :: tailByte v :: rest) =
      (some (Char.ofNat (code * 4096 + v % 4096)), rest) := by
  have hcode : (code * 64 + v / 64 % 64) * 64 + v % 64 = code * 4096 + v % 4096 := by omega
  rw [continued_tailByte hlow hhigh, continued_one (by omega) (by omega), hcode]

/-- Three more read the last eighteen. -/
theorem continued_three {low high v : Nat} (hlow : low ≤ v / 4096 % 0x40 + 0x80)
    (hhigh : v / 4096 % 0x40 + 0x80 ≤ high) (code : Nat) (rest : List UInt8) :
    continued 3 low high code (tailByte (v / 4096) :: tailByte (v / 64) :: tailByte v :: rest) =
      (some (Char.ofNat (code * 262144 + v % 262144)), rest) := by
  have hcode : (code * 64 + v / 4096 % 64) * 4096 + v % 4096 = code * 262144 + v % 262144 := by
    omega
  rw [continued_tailByte hlow hhigh, continued_two (by omega) (by omega), hcode]

/-- The first byte of an encoded character leads back to the character, whatever comes after it. -/
theorem next_encoded (c : Char) (rest : List UInt8) : ∃ first tail,
    String.utf8EncodeChar c = first :: tail ∧ next first (tail ++ rest) = (some c, rest) := by
  have hvalid : c.val.toNat < 0xd800 ∨ 0xdfff < c.val.toNat ∧ c.val.toNat < 0x110000 := c.valid
  have hchar : Char.ofNat c.val.toNat = c := Char.ofNat_toNat c
  unfold String.utf8EncodeChar
  generalize c.val.toNat = v at hvalid hchar
  dsimp only
  have hread {code : Nat} (hcode : code = v) :
      (some (Char.ofNat code), rest) = (some c, rest) := by rw [hcode, hchar]
  split_ifs with h₁ h₂ h₃
  · refine ⟨_, [], rfl, ?_⟩
    simp only [next]
    rw [toNat_byte (by omega), if_pos (by omega), hchar]
    rfl
  · refine ⟨_, [tailByte v], rfl, ?_⟩
    simp only [next]
    rw [toNat_byte (by omega), if_neg (by omega), if_neg (by omega), if_pos (by omega)]
    exact (continued_one (by omega) (by omega) ..).trans (hread (by omega))
  -- From here on the range of the second byte depends on the first.
  · refine ⟨_, [tailByte (v / 64), tailByte v], rfl, ?_⟩
    simp only [next, List.cons_append, List.nil_append]
    rw [toNat_byte (by omega), if_neg (by omega), if_neg (by omega), if_neg (by omega)]
    split_ifs
    · rw [continued_two (by omega) (by omega), Nat.zero_mul, hread (by omega)]
    · rw [continued_two (by omega) (by omega), hread (by omega)]
    · rw [continued_two (by omega) (by omega), hread (by omega)]
    all_goals omega
  · refine ⟨_, [tailByte (v / 4096), tailByte (v / 64), tailByte v], rfl, ?_⟩
    simp only [next, List.cons_append, List.nil_append]
    rw [toNat_byte (by omega), if_neg (by omega), if_neg (by omega), if_neg (by omega),
      if_neg (by omega), if_neg (by omega), if_neg (by omega)]
    split_ifs
    · rw [continued_three (by omega) (by omega), Nat.zero_mul, hread (by omega)]
    · rw [continued_three (by omega) (by omega), hread (by omega)]
    · rw [continued_three (by omega) (by omega), hread (by omega)]
    all_goals omega

/-! ### Texts -/

/-- The bytes of a text are those of its characters. -/
theorem toUTF8_data (text : String) :
    text.toUTF8.data.toList = text.toList.flatMap String.utf8EncodeChar := by
  rw [String.toUTF8_eq_toByteArray, ← String.utf8Encode_toList, List.utf8Encode,
    List.toList_data_toByteArray]

/-- The pieces of encoded characters are the characters. -/
theorem pieces_encoded (chars : List Char) :
    pieces (chars.flatMap String.utf8EncodeChar) = chars.map some := by
  induction chars with
  | nil => rw [List.flatMap_nil, pieces, List.map_nil]
  | cons c chars ih =>
    obtain ⟨first, tail, hbytes, hnext⟩ :=
      next_encoded c (chars.flatMap String.utf8EncodeChar)
    rw [List.flatMap_cons, hbytes, List.cons_append, pieces, hnext, ih, List.map_cons]

/-- Collecting the bytes of an array from a place on puts them after what is collected. -/
theorem toList_loop (bytes : ByteArray) (place : Nat) (collected : List UInt8) :
    ByteArray.toList.loop bytes place collected =
      collected.reverse ++ bytes.data.toList.drop place := by
  fun_induction ByteArray.toList.loop bytes place collected with
  | case1 place collected hlt ih =>
    have hplace : place < bytes.data.toList.length := hlt
    have hget : bytes.get! place = bytes.data.toList[place] := by
      change bytes.data[place]! = _
      rw [getElem!_pos bytes.data place hlt, Array.getElem_toList]
    rw [ih, List.reverse_cons, List.append_assoc, List.drop_eq_getElem_cons hplace, hget,
      List.singleton_append]
  | case2 place collected hge =>
    have hplace : bytes.data.toList.length ≤ place := Nat.not_lt.mp hge
    rw [List.drop_eq_nil_of_le hplace, List.append_nil]

/-- An encoded text is read back, and none of its pieces is broken. -/
theorem decode?_encoded (text : String) : decode? text.toUTF8.toList = some text := by
  have hwhole (chars : List Char) : (chars.map some).mapM id = some chars := by
    induction chars with
    | nil => rfl
    | cons c chars ih =>
      rw [List.map_cons, List.mapM_cons, ih]
      rfl
  have hbytes : text.toUTF8.toList = text.toUTF8.data.toList := by
    rw [ByteArray.toList, toList_loop, List.reverse_nil, List.nil_append, List.drop_zero]
  rw [decode?, hbytes, toUTF8_data, pieces_encoded, hwhole, Option.map_some, String.ofList_toList]

/-- An encoded text is read back, also where broken pieces would be shown. -/
theorem decodeLossy_encoded (text : String) : decodeLossy text.toUTF8.data.toList = text := by
  rw [decodeLossy, toUTF8_data, pieces_encoded, List.map_map]
  have hid : ((·.getD '\ufffd') ∘ some : Char → Char) = id := rfl
  rw [hid, List.map_id, String.ofList_toList]

end ForeignMatrix.Text.Utf8

namespace ForeignMatrix.Text

/-! ### Hexadecimal digits -/

/-- Digits in whatever form that shows their values spell the number they were taken from. -/
theorem foldlM_toHex {form : Char → Char}
    (hform : ∀ d < 16, hexValue? (form (Nat.digitChar d)) = some d) (width number : Nat) :
    ((toHex width number).map form).foldlM
        (fun number c => (hexValue? c).map (number * 16 + ·)) 0 =
      some (number % 16 ^ width) := by
  induction width generalizing number with
  | zero => simp [toHex, Nat.mod_one]
  | succ width ih =>
    have hdigit : number % 16 < 16 := Nat.mod_lt _ (by decide)
    have hsplit : number / 16 % 16 ^ width * 16 + number % 16 = number % 16 ^ (width + 1) := by
      rw [Nat.pow_succ', Nat.mod_mul]
      omega
    rw [toHex, List.map_append, List.foldlM_append, ih]
    simp [hform _ hdigit, hsplit]

/-- Lower-case digits spell their number. -/
theorem ofHex?_toHex (width number : Nat) :
    ofHex? (toHex width number) = some (number % 16 ^ width) := by
  have hread := @foldlM_toHex id (by decide) width number
  rwa [List.map_id] at hread

/-- Upper-case digits do so too. -/
theorem ofHex?_toUpperHex (width number : Nat) :
    ofHex? (toUpperHex width number) = some (number % 16 ^ width) :=
  foldlM_toHex (by decide) width number

theorem mem_toHex {width number : Nat} {c : Char} (hc : c ∈ toHex width number) :
    ∃ d < 16, c = Nat.digitChar d := by
  induction width generalizing number with
  | zero => exact absurd hc List.not_mem_nil
  | succ width ih =>
    rw [toHex, List.mem_append, List.mem_singleton] at hc
    rcases hc with hc | rfl
    · exact ih hc
    · exact ⟨_, Nat.mod_lt _ (by decide), rfl⟩

/-- Upper-case digits are digits and letters of ASCII. -/
theorem isAlphanum_of_mem_toUpperHex {width number : Nat} {c : Char}
    (hc : c ∈ toUpperHex width number) : c.isAlphanum = true := by
  obtain ⟨digit, hdigit, rfl⟩ := List.mem_map.mp hc
  obtain ⟨d, hd, rfl⟩ := mem_toHex hdigit
  have hall : ∀ d < 16, (Nat.digitChar d).toUpper.isAlphanum = true := by decide
  exact hall d hd

@[simp]
theorem length_toHex (width number : Nat) : (toHex width number).length = width := by
  induction width generalizing number with
  | zero => rfl
  | succ width ih => rw [toHex, List.length_append, ih, List.length_singleton]

@[simp]
theorem length_toUpperHex (width number : Nat) : (toUpperHex width number).length = width := by
  rw [toUpperHex, List.length_map, length_toHex]

/-- The code of a character leads back to it. -/
theorem charOfCode?_toNat (c : Char) : charOfCode? c.toNat = some c := by
  have hvalid : c.toNat.isValidChar := c.valid
  rw [charOfCode?, if_pos hvalid, Char.ofNat_toNat]

/-- A reader that takes in the digits of a code one by one, so many of them missing, reads the
character that they spell, and goes on behind it. -/
theorem read_code {readCode : Nat → Nat → List Char → Option (List Char × List Char)}
    {readRest : List Char → Option (List Char × List Char)}
    (hstep : ∀ missing value d input, readCode missing value (d :: input) =
      (hexValue? d).bind fun digit =>
        if missing ≤ 1 then
          (charOfCode? (value * 16 + digit)).bind fun c =>
            (readRest input).map fun read => (c :: read.1, read.2)
        else readCode (missing - 1) (value * 16 + digit) input)
    (rest : List Char) {c : Char} {digits : List Char} {value : Nat} (hne : digits ≠ [])
    (hdigits : digits.foldlM (fun number d => (hexValue? d).map (number * 16 + ·)) value =
      some c.toNat) :
    readCode digits.length value (digits ++ rest) =
      (readRest rest).map fun read => (c :: read.1, read.2) := by
  induction digits generalizing value with
  | nil => exact absurd rfl hne
  | cons d digits ih =>
    rw [List.foldlM_cons] at hdigits
    obtain ⟨number, hnumber, hdigits⟩ := Option.bind_eq_some_iff.mp hdigits
    obtain ⟨digit, hdigit, rfl⟩ := Option.map_eq_some_iff.mp hnumber
    rw [List.cons_append, hstep, hdigit, Option.bind_some]
    cases digits with
    | nil =>
      rw [List.foldlM_nil] at hdigits
      have hvalue : value * 16 + digit = c.toNat := Option.some.inj hdigits
      have hlast : [d].length ≤ 1 := Nat.le_refl 1
      rw [if_pos hlast, hvalue, charOfCode?_toNat, Option.bind_some, List.nil_append]
    | cons next digits =>
      have hmore : ¬(d :: next :: digits).length ≤ 1 := by
        rw [List.length_cons, List.length_cons]
        omega
      rw [if_neg hmore]
      exact ih (List.cons_ne_nil _ _) hdigits

end ForeignMatrix.Text
