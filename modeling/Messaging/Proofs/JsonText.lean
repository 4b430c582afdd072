import Messaging.Json.Printer
import Messaging.Json.Reader

/-!
# Reading what was written

The text of a JSON value is read as that value.

- `Utf8.sequence?_encodeChar` says so of one character, `readString_encode` of texts and
  `readNumber_encode` of the digits of a number.
- `Readable` says which values the reader takes as they are: no number among them is a float, and
  they nest no deeper than a bound.
- `Reads` says that the bytes of a value are read as it; `Readable.reads` shows it by induction on
  the value, and `read_toBytes` draws the conclusion for whole texts.
-/

namespace Messaging.Text.Utf8

/-! ### Characters -/

theorem toNat_toUInt8 {n : Nat} (h : n < 256) : n.toUInt8.toNat = n := by
  simp only [Nat.toUInt8, UInt8.toNat_ofNat']
  omega

/-- `tail?` reads six bits of the bytes that follow the first one of a character. -/
theorem tail?_toUInt8 {n : Nat} (h : n < 0x40) : tail? (0x80 + n).toUInt8 = some n := by
  rw [tail?, toNat_toUInt8 (by omega), if_pos (by omega), Nat.add_sub_cancel_left]

theorem char?_toNat (c : Char) : char? c.toNat = some c := by
  have hvalid : c.toNat.isValidChar := c.valid
  rw [char?, dif_pos hvalid]
  exact congrArg some (Char.ext rfl)

theorem toNat_lt (c : Char) : c.toNat < 0x110000 := by
  have hvalid : c.toNat.isValidChar := c.valid
  rw [Nat.isValidChar] at hvalid
  omega

/-- A written character is read again, whatever comes after it. -/
theorem sequence?_encodeChar (c : Char) (rest : List UInt8) :
    sequence? (encodeChar c ++ rest) = some (c, rest) := by
  have hlt := toNat_lt c
  rw [encodeChar]
  split
  · unfold sequence?
    rw [List.singleton_append]
    dsimp only
    rw [toNat_toUInt8 (by omega), if_pos (by assumption), char?_toNat, Option.map_some]
  · -- the first byte says how many continue it, and each of these has six bits of the code
    split
    · simp only [List.cons_append, List.nil_append, sequence?]
      have hcode : (0xC0 + c.toNat / 0x40 - 0xC0) * 0x40 + c.toNat % 0x40 = c.toNat := by omega
      rw [toNat_toUInt8 (by omega), if_neg (by omega), if_neg (by omega), if_pos (by omega),
        tail?_toUInt8 (by omega)]
      simp only [bind, Option.bind, hcode, char?_toNat, Option.map_some]
    · split
      · simp only [List.cons_append, List.nil_append, sequence?]
        have hcode : (0xE0 + c.toNat / 0x1000 - 0xE0) * 0x1000 + c.toNat / 0x40 % 0x40 * 0x40
            + c.toNat % 0x40 = c.toNat := by omega
        rw [toNat_toUInt8 (by omega), if_neg (by omega), if_neg (by omega), if_neg (by omega),
          if_pos (by omega), tail?_toUInt8 (by omega), tail?_toUInt8 (by omega)]
        simp only [bind, Option.bind, hcode, char?_toNat, Option.map_some]
        rw [if_neg (by omega)]
      · simp only [List.cons_append, List.nil_append, sequence?]
        have hcode : (0xF0 + c.toNat / 0x40000 - 0xF0) * 0x40000
            + c.toNat / 0x1000 % 0x40 * 0x1000 + c.toNat / 0x40 % 0x40 * 0x40 + c.toNat % 0x40
            = c.toNat := by omega
        rw [toNat_toUInt8 (by omega), if_neg (by omega), if_neg (by omega), if_neg (by omega),
          if_neg (by omega), if_pos (by omega), tail?_toUInt8 (by omega), tail?_toUInt8 (by omega),
          tail?_toUInt8 (by omega)]
        simp only [bind, Option.bind, hcode, char?_toNat, Option.map_some]
        rw [if_neg (by omega)]

/-- The bytes of a character begin with a byte above the first characters, unless the character is
one of them. -/
theorem encodeChar_eq_cons (c : Char) :
    ∃ b rest, encodeChar c = b :: rest ∧ (b.toNat = c.toNat ∨ 0x80 ≤ b.toNat) := by
  have hlt := toNat_lt c
  rw [encodeChar]
  split
  · exact ⟨_, _, rfl, .inl (toNat_toUInt8 (by omega))⟩
  · split
    · exact ⟨_, _, rfl, .inr (by rw [toNat_toUInt8] <;> omega)⟩
    · split <;> exact ⟨_, _, rfl, .inr (by rw [toNat_toUInt8] <;> omega)⟩

/-- A character takes a byte at least. -/
theorem length_le_encode (cs : List Char) : cs.length ≤ (encode cs).length := by
  induction cs with
  | nil => exact Nat.le_refl _
  | cons c rest ih =>
    obtain ⟨b, more, hbytes, -⟩ := encodeChar_eq_cons c
    rw [encode, List.flatMap_cons, ← encode, hbytes]
    simp only [List.length_cons, List.length_append]
    omega

/-- `Utf8.encode` goes character by character. -/
theorem encode_append (front back : List Char) :
    encode (front ++ back) = encode front ++ encode back := List.flatMap_append

theorem encode_cons (c : Char) (rest : List Char) :
    encode (c :: rest) = encodeChar c ++ encode rest := rfl

end Messaging.Text.Utf8

namespace Messaging.Json

open Text

variable {cursor : Cursor} {tail : List UInt8} {fuel depth : Nat}

/-- One byte further the bytes after it are to come. -/
theorem rest_advance {b : UInt8} (h : cursor.rest = b :: tail) : cursor.advance.rest = tail := by
  rw [Cursor.advance, h]
  dsimp only
  split <;> rfl

/-! ### Texts -/

section Texts

variable {acc : List Char} {c : Char}

/-- A character that needs no escape is read as itself. -/
theorem readChars_encodeChar (hquote : c ≠ '"') (hbackslash : c ≠ '\\') (hcontrol : 0x20 ≤ c.toNat)
    (h : cursor.rest = Utf8.encodeChar c ++ tail) :
    ∃ cursor' : Cursor, cursor'.rest = tail ∧
      readChars (fuel + 1) cursor acc none = readChars fuel cursor' (c :: acc) none := by
  obtain ⟨b, rest, hbytes, hfirst⟩ := Text.Utf8.encodeChar_eq_cons c
  -- a byte below 0x80 is a character of its own, and no part of another one
  have hne {code : Nat} (hcode : code < 0x80) (hc : c ≠ Char.ofNat code) : b.toNat ≠ code := by
    intro hsame
    rcases hfirst with hfirst | hfirst
    · exact hc (by rw [← hsame, hfirst, Char.ofNat_toNat])
    · omega
  have hb : b ≠ 0x22 ∧ b ≠ 0x5C ∧ ¬ b < 0x20 := by
    refine ⟨?_, ?_, ?_⟩
    · rintro rfl
      exact hne (by decide) hquote rfl
    · rintro rfl
      exact hne (by decide) hbackslash rfl
    · rw [UInt8.lt_iff_toNat_lt]
      change ¬ b.toNat < 0x20
      omega
  obtain ⟨hb₁, hb₂, hb₃⟩ := hb
  have hread := Text.Utf8.sequence?_encodeChar c tail
  rw [hbytes, List.cons_append] at hread h
  rw [readChars, h]
  simp only [if_neg hb₁, if_neg hb₂, if_neg hb₃, hread]
  exact ⟨_, rfl, rfl⟩

/-- The digits of the escape of a control character. -/
theorem encode_unicodeEscape : ∀ code < 0x20,
    Utf8.encode (unicodeEscape code) = [0x5C, 0x75, 0x30, 0x30, (0x30 + code / 0x10).toUInt8,
      if code % 0x10 < 10 then (0x30 + code % 0x10).toUInt8
      else (0x57 + code % 0x10).toUInt8] := by
  decide +kernel

/-- The two last digits of an escape are read again; those before are zeros, as only control
characters are written so. -/
theorem hexDigit?_escape : ∀ code < 0x20,
    hexDigit? (0x30 + code / 0x10).toUInt8 = some (code / 0x10) ∧
      hexDigit? (if code % 0x10 < 10 then (0x30 + code % 0x10).toUInt8
        else (0x57 + code % 0x10).toUInt8) = some (code % 0x10) := by
  decide +kernel

/-- The escape of a control character is read as that character. -/
theorem readEscape_unicodeEscape (hcontrol : c.toNat < 0x20)
    (h : 0x5C :: cursor.rest = Utf8.encode (unicodeEscape c.toNat) ++ tail) :
    ∃ cursor' : Cursor, cursor'.rest = tail ∧ readEscape cursor = .ok (c, cursor') := by
  obtain ⟨hhigh, hlow⟩ := hexDigit?_escape c.toNat hcontrol
  rw [encode_unicodeEscape c.toNat hcontrol] at h
  generalize (0x30 + c.toNat / 0x10).toUInt8 = high at h hhigh
  generalize (if c.toNat % 0x10 < 10 then (0x30 + c.toNat % 0x10).toUInt8
        else (0x57 + c.toNat % 0x10).toUInt8) = low at h hlow
  replace h : cursor.rest = 0x75 :: 0x30 :: 0x30 :: high :: low :: tail := (List.cons.inj h).2
  have hrest := rest_advance h
  -- two zeros and two digits make the number of the character
  have hhex : readHex cursor.advance
      = .ok (c.toNat, cursor.advance.advance.advance.advance.advance) := by
    have hzero : hexDigit? 0x30 = some 0 := by decide
    have hcode : 0 * 0x1000 + 0 * 0x100 + c.toNat / 0x10 * 0x10 + c.toNat % 0x10 = c.toNat := by
      omega
    rw [readHex, hrest]
    simp only [hhigh, hlow, hzero, hcode]
  have hread : readEscape cursor = readUnicodeEscape cursor.advance := by
    rw [readEscape, h]
    rfl
  refine ⟨_, rest_advance (rest_advance (rest_advance (rest_advance hrest))), ?_⟩
  rw [hread, readUnicodeEscape, hhex]
  simp only [bind, Except.bind]
  -- a control character is no surrogate
  rw [if_neg (by omega), if_neg (by omega), Char.ofNat_toNat]

/-- What follows a backslash is read as one character. -/
theorem readChars_escape (h : cursor.rest = 0x5C :: tail) {rest : List UInt8}
    (hescape : ∀ cursor : Cursor, cursor.rest = tail →
      ∃ cursor' : Cursor, cursor'.rest = rest ∧ readEscape cursor = .ok (c, cursor')) :
    ∃ cursor' : Cursor, cursor'.rest = rest ∧
      readChars (fuel + 1) cursor acc none = readChars fuel cursor' (c :: acc) none := by
  obtain ⟨cursor', hrest, hread⟩ := hescape cursor.advance (rest_advance h)
  refine ⟨cursor', hrest, ?_⟩
  rw [readChars, h]
  dsimp only
  rw [if_neg (by decide), if_pos rfl, hread]
  rfl

/-- The characters with an escape of two characters, and the second of these. -/
def shortEscapes : List (Char × UInt8) :=
  [('"', 0x22), ('\\', 0x5C), ('\x08', 0x62), ('\x0C', 0x66), ('\n', 0x6E), ('\r', 0x72),
    ('\t', 0x74)]

/-- The `shortEscapes` are written as a backslash and one letter. -/
theorem encode_shortEscape : ∀ escape ∈ shortEscapes,
    Utf8.encode (printChar escape.1) = [0x5C, escape.2] := by
  decide +kernel

/-- The letter after the backslash is read as the character that it stands for. -/
theorem readEscape_shortEscape {escape : Char × UInt8} (hescape : escape ∈ shortEscapes)
    (h : cursor.rest = escape.2 :: tail) : readEscape cursor = .ok (escape.1, cursor.advance) := by
  rw [readEscape, h]
  simp only [shortEscapes, List.mem_cons, List.not_mem_nil, or_false] at hescape
  rcases hescape with rfl | rfl | rfl | rfl | rfl | rfl | rfl <;> rfl

/-- All other characters are written as they are, or as `unicodeEscape` if they are control
characters. -/
theorem printChar_of_forall_ne (h : ∀ escape ∈ shortEscapes, c ≠ escape.1) :
    printChar c = if c.toNat < 0x20 then unicodeEscape c.toNat else [c] := by
  simp only [shortEscapes, List.forall_mem_cons] at h
  obtain ⟨h₁, h₂, h₃, h₄, h₅, h₆, h₇, -⟩ := h
  rw [printChar, if_neg h₁, if_neg h₂, if_neg h₃, if_neg h₄, if_neg h₅, if_neg h₆, if_neg h₇]

/-- A written character of a text is read again. -/
theorem readChars_printChar (fuel : Nat) (c : Char) (acc : List Char)
    (h : cursor.rest = Utf8.encode (printChar c) ++ tail) :
    ∃ cursor' : Cursor, cursor'.rest = tail ∧
      readChars (fuel + 1) cursor acc none = readChars fuel cursor' (c :: acc) none := by
  -- there are three ways to write a character: with a letter, with its number, and as it is
  by_cases hshort : ∃ escape ∈ shortEscapes, c = escape.1
  · obtain ⟨escape, hescape, rfl⟩ := hshort
    rw [encode_shortEscape escape hescape] at h
    exact readChars_escape h fun cursor hrest =>
      ⟨_, rest_advance hrest, readEscape_shortEscape hescape hrest⟩
  · have hne : ∀ escape ∈ shortEscapes, c ≠ escape.1 := fun escape hescape hsame =>
      hshort ⟨escape, hescape, hsame⟩
    rw [printChar_of_forall_ne hne] at h
    split at h
    · next hcontrol =>
      have hcons := encode_unicodeEscape c.toNat hcontrol
      rw [hcons] at h
      refine readChars_escape h fun cursor hrest => readEscape_unicodeEscape hcontrol ?_
      rw [hcons, hrest]
      rfl
    · next hcontrol =>
      refine readChars_encodeChar (hne ('"', 0x22) (by decide)) (hne ('\\', 0x5C) (by decide))
        (Nat.le_of_not_lt hcontrol) (h.trans ?_)
      rw [Utf8.encode_cons, Utf8.encode, List.flatMap_nil, List.append_nil]

/-- The characters of a written text are read again, up to the quote that ends it. -/
theorem readChars_flatMap (cs acc : List Char) (hfuel : cs.length < fuel)
    (h : cursor.rest = Utf8.encode (cs.flatMap printChar) ++ 0x22 :: tail) :
    ∃ cursor' : Cursor, cursor'.rest = tail ∧
      readChars fuel cursor acc none = .ok (acc.reverse ++ cs, cursor') := by
  induction cs generalizing cursor acc fuel with
  | nil =>
    -- the fuel outlasts the characters
    cases fuel with
    | zero => cases hfuel
    | succ fuel =>
      refine ⟨_, rest_advance h, ?_⟩
      rw [readChars, h]
      simp only [Utf8.encode, List.flatMap_nil, List.nil_append, List.append_nil]
      rfl
  | cons c rest ih =>
    cases fuel with
    | zero => cases hfuel
    | succ fuel =>
      rw [List.flatMap_cons, Utf8.encode_append, List.append_assoc] at h
      obtain ⟨next, hnext, hread⟩ := readChars_printChar fuel c acc h
      obtain ⟨cursor', hrest, hall⟩ := ih (c :: acc) (Nat.lt_of_succ_lt_succ hfuel) hnext
      refine ⟨cursor', hrest, ?_⟩
      rw [hread, hall, List.reverse_cons, List.append_assoc, List.singleton_append]

theorem length_le_flatMap_printChar (cs : List Char) :
    cs.length ≤ (cs.flatMap printChar).length := by
  have hpos (c : Char) : 1 ≤ (printChar c).length := by
    simp only [printChar, unicodeEscape]
    repeat' split
    all_goals simp
  induction cs with
  | nil => exact Nat.le_refl _
  | cons c rest ih =>
    rw [List.flatMap_cons, List.length_append, List.length_cons]
    have := hpos c
    omega

/-- A written text is read again after its opening quote. -/
theorem readString_printString (text : String)
    (h : 0x22 :: cursor.rest = Utf8.encode (printString printChar text) ++ tail) :
    ∃ cursor' : Cursor, cursor'.rest = tail ∧ readString cursor = .ok (text, cursor') := by
  have hrest : cursor.rest = Utf8.encode (text.toList.flatMap printChar) ++ 0x22 :: tail := by
    have hquote : Utf8.encodeChar '"' = [0x22] := rfl
    rw [printString, Utf8.encode_append, Utf8.encode_cons, Utf8.encode_cons, hquote,
      List.append_assoc, List.append_assoc, List.singleton_append] at h
    exact (List.cons.inj h).2
  -- every character takes a byte, so the length of the text is fuel enough
  have hfuel : text.toList.length < cursor.rest.length + 1 := by
    have hchars := length_le_flatMap_printChar text.toList
    have hbytes := Utf8.length_le_encode (text.toList.flatMap printChar)
    rw [hrest, List.length_append]
    omega
  obtain ⟨cursor', htail, hread⟩ := readChars_flatMap text.toList [] hfuel hrest
  refine ⟨cursor', htail, ?_⟩
  rw [readString, hread]
  simp only [bind, Except.bind, List.reverse_nil, List.nil_append, String.ofList_toList]

end Texts

/-! ### Numbers -/

/-- What may follow a number: nothing that would be a part of it. -/
def Stops (rest : List UInt8) : Prop :=
  ∀ b ∈ rest.head?, digit? b = none ∧ b ≠ 0x2E ∧ b ≠ 0x65 ∧ b ≠ 0x45

section Numbers

variable {limit value : Nat} {ds : List Char} {d : Char}

/-- A digit is one byte, and read as its value. -/
theorem encodeChar_digit (h : d.isDigit = true) :
    Utf8.encodeChar d = [d.toNat.toUInt8] ∧
      digit? d.toNat.toUInt8 = some (d.toNat - '0'.toNat) := by
  replace h : 0x30 ≤ d.toNat ∧ d.toNat ≤ 0x39 := Char.isDigit_iff_toNat.1 h
  have htoNat := Utf8.toNat_toUInt8 (n := d.toNat) (by omega)
  refine ⟨by rw [Utf8.encodeChar, if_pos (by omega)], ?_⟩
  rw [digit?, htoNat, if_pos]
  · rfl
  · rw [UInt8.le_iff_toNat_le, UInt8.le_iff_toNat_le, htoNat]
    exact h

/-- More digits do not make a number smaller. -/
theorem le_ofDigitChars (ds : List Char) (value : Nat) : value ≤ Nat.ofDigitChars 10 ds value := by
  induction ds generalizing value with
  | nil => exact Nat.le_of_eq Nat.ofDigitChars_nil.symm
  | cons d rest ih =>
    rw [Nat.ofDigitChars_cons]
    have := ih (10 * value + (d.toNat - '0'.toNat))
    omega

/-- Digits are taken up to what follows the number. -/
theorem takeDigits_encode (hdigits : ∀ d ∈ ds, d.isDigit = true)
    (hlimit : Nat.ofDigitChars 10 ds value ≤ limit) (hstops : Stops tail) (line column n : Nat) :
    ∃ cursor' : Cursor, cursor'.rest = tail ∧
      takeDigits limit (Utf8.encode ds ++ tail) line column value n
        = (Nat.ofDigitChars 10 ds value, n + ds.length, false, cursor') := by
  induction ds generalizing value column n with
  | nil =>
    refine ⟨⟨tail, line, column⟩, rfl, ?_⟩
    cases tail with
    | nil => rfl
    | cons b rest =>
      have hnone := (hstops b rfl).1
      rw [Utf8.encode, List.flatMap_nil, List.nil_append, takeDigits, hnone, Nat.ofDigitChars_nil]
      rfl
  | cons d rest ih =>
    obtain ⟨hd, hrest⟩ := List.forall_mem_cons.1 hdigits
    obtain ⟨hbytes, hdigit⟩ := encodeChar_digit hd
    rw [Nat.ofDigitChars_cons, Nat.mul_comm 10] at hlimit ⊢
    -- a number below the limit has no digits that lead above it
    have hfits := Nat.le_trans (le_ofDigitChars rest _) hlimit
    obtain ⟨cursor', htail, htake⟩ := ih hrest hlimit (column + 1) (n + 1)
    refine ⟨cursor', htail, ?_⟩
    rw [Utf8.encode_cons, hbytes, List.singleton_append, List.cons_append, takeDigits, hdigit]
    dsimp only
    rw [if_pos hfits, htake, List.length_cons]
    simp only [Nat.add_assoc, Nat.add_comm 1]

/-- No number but zero begins with the digit zero. -/
theorem toDigits_eq_cons {n : Nat} (h : 0 < n) :
    ∃ d ds, Nat.toDigits 10 n = d :: ds ∧ d ≠ '0' := by
  induction n using Nat.strongRecOn with
  | ind n ih =>
    by_cases hsmall : n < 10
    · refine ⟨n.digitChar, [], Nat.toDigits_of_lt_base hsmall, ?_⟩
      have hdigit : ∀ n < 10, 0 < n → n.digitChar ≠ '0' := by decide
      exact hdigit n hsmall h
    · obtain ⟨d, ds, hdigits, hd⟩ := ih (n / 10) (by omega) (by omega)
      exact ⟨d, ds ++ [(n % 10).digitChar], by
        rw [Nat.toDigits_of_base_le (by decide) (by omega), hdigits, List.cons_append], hd⟩

/-- After its digits a number ends where nothing follows that would be a part of it. -/
theorem readNumberEnd_of_stops (hstops : Stops cursor.rest) (negative : Bool) (significand : Nat) :
    readNumberEnd negative significand cursor = .ok (integerOf negative significand, cursor) := by
  rw [readNumberEnd]
  split
  · next b rest hrest =>
    obtain ⟨-, hpoint, hsmall, hlarge⟩ := hstops b (by rw [hrest]; rfl)
    rw [if_neg hpoint, if_neg (by simp [hsmall, hlarge])]
  · rfl

/-- The digits of a number are read again. -/
theorem readNumber_encode {n : Nat} (negative : Bool) (hn : n ≤ maxSignificand)
    (hstops : Stops tail)
    (h : cursor.rest = Utf8.encode (Nat.toDigits 10 n) ++ tail) :
    ∃ cursor' : Cursor, cursor'.rest = tail ∧
      readNumber negative cursor = .ok (integerOf negative n, cursor') := by
  have hisDigit : ∀ d ∈ Nat.toDigits 10 n, d.isDigit = true := fun d hd =>
    Nat.isDigit_of_mem_toDigits (by decide) (by decide) hd
  -- a leading zero is read as a number of its own
  cases n with
  | zero =>
    have hrest : cursor.rest = 0x30 :: tail := h
    have hnext := rest_advance hrest
    refine ⟨cursor.advance, hnext, ?_⟩
    rw [readNumber, hrest]
    have hzero : digit? 0x30 = some 0 := by decide
    have hend := readNumberEnd_of_stops (by rw [hnext]; exact hstops) negative 0
    simp only [hzero, hnext]
    split
    · next b rest =>
      rw [(hstops b rfl).1]
      exact hend
    · exact hend
  | succ n =>
    obtain ⟨d, ds, hdigits, hzero⟩ := toDigits_eq_cons (Nat.succ_pos n)
    have hvalue := Nat.ofDigitChars_ten_toDigits (n := n + 1)
    rw [hdigits] at h hisDigit hvalue
    obtain ⟨hd, hds⟩ := List.forall_mem_cons.1 hisDigit
    obtain ⟨hbytes, hdigit⟩ := encodeChar_digit hd
    rw [Nat.ofDigitChars_cons, Nat.mul_zero, Nat.zero_add] at hvalue
    rw [Utf8.encode_cons, hbytes, List.singleton_append, List.cons_append] at h
    have hnext := rest_advance h
    cases hk : d.toNat - '0'.toNat with
    | zero =>
      have hlow := (Char.isDigit_iff_toNat.1 hd).1
      exact absurd (Char.toNat_inj.1 (by omega : d.toNat = '0'.toNat)) hzero
    | succ k =>
      rw [hk] at hvalue hdigit
      obtain ⟨cursor', htail, htake⟩ := takeDigits_encode hds
        (Nat.le_trans (Nat.le_of_eq hvalue) hn) hstops cursor.advance.line cursor.advance.column 0
      refine ⟨cursor', htail, ?_⟩
      rw [readNumber, h]
      simp only [hdigit, hnext, htake, hvalue]
      exact readNumberEnd_of_stops (by rw [htail]; exact hstops) negative (n + 1)

end Numbers

/-! ### Values -/

/-- A value without floats whose integers fit 64 bits, whose members stand in the order of their
names, and whose lists and objects nest at most `depth` deep. -/
inductive Readable : Nat → Json → Prop where
  /-- The value without content. -/
  | null {depth : Nat} : Readable depth .null
  /-- A truth value. -/
  | bool {depth : Nat} (value : Bool) : Readable depth (.bool value)
  /-- An integer, signed or not. -/
  | integer {depth : Nat} {z : Int} (hlow : -9223372036854775808 ≤ z)
      (hhigh : z ≤ 18446744073709551615) : Readable depth (.integer z)
  /-- A text. -/
  | string {depth : Nat} (text : String) : Readable depth (.string text)
  /-- A list. -/
  | array {depth : Nat} {items : List Json} (hitems : ∀ item ∈ items, Readable depth item) :
      Readable (depth + 1) (.array items)
  /-- An object. -/
  | object {depth : Nat} {members : List (String × Json)}
      (hnames : members.Pairwise fun first later => first.1 < later.1)
      (hmembers : ∀ member ∈ members, Readable depth member.2) :
      Readable (depth + 1) (.object members)

/-- The bytes of a value are read as the value, whatever may follow them. -/
def Reads (depth : Nat) (value : Json) : Prop :=
  ∀ (fuel : Nat) (cursor : Cursor) (tail : List UInt8), cursor.rest = value.toBytes ++ tail →
    Stops tail → 2 * cursor.rest.length ≤ fuel →
    ∃ cursor' : Cursor, cursor'.rest = tail ∧ readValue fuel depth cursor = .ok (value, cursor')

/-- Bytes that begin no value, list end or separator of a list or object, or a blank. -/
def Opens (b : UInt8) : Prop :=
  b ≠ 0x0A ∧ b ≠ 0x20 ∧ b ≠ 0x09 ∧ b ≠ 0x0D ∧ b ≠ 0x5D ∧ b ≠ 0x2C ∧ b ≠ 0x7D

instance (b : UInt8) : Decidable (Opens b) := inferInstanceAs (Decidable (_ ∧ _))

section Values

variable {value : Json} {items : List Json} {members : List (String × Json)} {b : UInt8}

/-- No blanks are passed over where there are none. -/
theorem skipBlanks_eq_self (h : cursor.rest = b :: tail)
    (hb : b ≠ 0x0A ∧ b ≠ 0x20 ∧ b ≠ 0x09 ∧ b ≠ 0x0D) : cursor.skipBlanks = cursor := by
  obtain ⟨hnewline, hspace, htab, hreturn⟩ := hb
  obtain ⟨rest, line, column⟩ := cursor
  dsimp only at h
  subst h
  rw [Cursor.skipBlanks, Cursor.skipBlanks.go, if_neg hnewline,
    if_neg (by simp [hspace, htab, hreturn])]

/-- A number begins with a digit that `Opens` a value. -/
theorem opens_digit {d : Char} (h : d.isDigit = true) : Opens d.toNat.toUInt8 := by
  have hall : ∀ code ≤ 0x39, 0x30 ≤ code → Opens code.toUInt8 := by decide
  replace h : 0x30 ≤ d.toNat ∧ d.toNat ≤ 0x39 := Char.isDigit_iff_toNat.1 h
  exact hall d.toNat h.2 h.1

/-- The digits of a number begin with a digit. -/
theorem encode_toDigits_eq_cons (n : Nat) :
    ∃ b rest, Utf8.encode (Nat.toDigits 10 n) = b :: rest ∧ Opens b ∧ (digit? b).isSome = true := by
  cases hdigits : Nat.toDigits 10 n with
  | nil => exact absurd hdigits Nat.toDigits_ne_nil
  | cons d ds =>
    have hd : d.isDigit = true :=
      Nat.isDigit_of_mem_toDigits (b := 10) (n := n) (by decide) (by decide)
        (by rw [hdigits]; exact List.mem_cons_self)
    obtain ⟨hbytes, hdigit⟩ := encodeChar_digit hd
    exact ⟨d.toNat.toUInt8, Utf8.encode ds, by rw [Utf8.encode_cons, hbytes]; rfl, opens_digit hd,
      by rw [hdigit]; rfl⟩

/-- The text of a value begins with a byte that opens it. -/
theorem toBytes_eq_cons (h : Readable depth value) :
    ∃ b rest, value.toBytes = b :: rest ∧ Opens b := by
  cases h with
  | null => exact ⟨_, _, rfl, by decide⟩
  | bool value => cases value <;> exact ⟨_, _, rfl, by decide⟩
  | @integer _ z =>
    rw [toBytes, printWith, printInt]
    split
    · exact ⟨_, _, rfl, by decide⟩
    · obtain ⟨b, rest, hbytes, hopens, -⟩ := encode_toDigits_eq_cons z.natAbs
      exact ⟨b, rest, hbytes, hopens⟩
  | string text => exact ⟨_, _, rfl, by decide⟩
  | @array _ items => cases items <;> exact ⟨_, _, rfl, by decide⟩
  | @object _ members => cases members <;> exact ⟨_, _, rfl, by decide⟩

/-- Nothing of the text of a number follows the byte that begins a list end or a separator. -/
theorem stops_cons {rest : List UInt8} (h : b = 0x5D ∨ b = 0x2C ∨ b = 0x7D) :
    Stops (b :: rest) := by
  intro b' hb'
  cases hb'
  rcases h with rfl | rfl | rfl <;> decide

/-- A literal is read after its first byte. -/
theorem readLiteral_eq {expected : List UInt8} (h : cursor.rest = expected ++ tail) (value : Json) :
    ∃ cursor' : Cursor, cursor'.rest = tail ∧
      readLiteral expected cursor value = .ok (value, cursor') := by
  induction expected generalizing cursor with
  | nil => exact ⟨cursor, h, rfl⟩
  | cons b rest ih =>
    obtain ⟨cursor', htail, hread⟩ := ih (rest_advance h)
    refine ⟨cursor', htail, ?_⟩
    rw [readLiteral, h]
    dsimp only [List.cons_append]
    rw [if_pos rfl, hread]

/-- It is enough to read a value where there is fuel for one step. -/
theorem Reads.of_succ (hbytes : value.toBytes = b :: rest) (hopens : Opens b)
    (h : ∀ (fuel : Nat) (cursor : Cursor) (tail : List UInt8),
      cursor.rest = b :: (rest ++ tail) → cursor.skipBlanks = cursor → Stops tail →
      2 * cursor.rest.length ≤ fuel + 1 → ∃ cursor' : Cursor, cursor'.rest = tail ∧
        readValue (fuel + 1) depth cursor = .ok (value, cursor')) : Reads depth value := by
  intro fuel cursor tail hrest hstops hfuel
  rw [hbytes, List.cons_append] at hrest
  obtain ⟨hnewline, hspace, htab, hreturn, -⟩ := hopens
  cases fuel with
  | zero =>
    rw [hrest, List.length_cons] at hfuel
    omega
  | succ fuel =>
    exact h fuel cursor tail hrest (skipBlanks_eq_self hrest ⟨hnewline, hspace, htab, hreturn⟩)
      hstops hfuel

theorem reads_null : Reads depth .null := by
  refine .of_succ (show Json.null.toBytes = [0x6E, 0x75, 0x6C, 0x6C] from rfl) (by decide)
    fun fuel cursor tail hrest hblanks _ _ => ?_
  obtain ⟨cursor', htail, hread⟩ := readLiteral_eq (rest_advance hrest) .null
  exact ⟨cursor', htail, by rw [readValue.eq_def]; simp only [hblanks, hrest]; exact hread⟩

theorem reads_bool (value : Bool) : Reads depth (.bool value) := by
  cases value with
  | true =>
    have hbytes : (Json.bool true).toBytes = [0x74, 0x72, 0x75, 0x65] := rfl
    refine .of_succ hbytes (by decide) fun fuel cursor tail hrest hblanks _ _ => ?_
    obtain ⟨cursor', htail, hread⟩ := readLiteral_eq (rest_advance hrest) (.bool true)
    exact ⟨cursor', htail, by rw [readValue.eq_def]; simp only [hblanks, hrest]; exact hread⟩
  | false =>
    have hbytes : (Json.bool false).toBytes = [0x66, 0x61, 0x6C, 0x73, 0x65] := rfl
    refine .of_succ hbytes (by decide) fun fuel cursor tail hrest hblanks _ _ => ?_
    obtain ⟨cursor', htail, hread⟩ := readLiteral_eq (rest_advance hrest) (.bool false)
    exact ⟨cursor', htail, by rw [readValue.eq_def]; simp only [hblanks, hrest]; exact hread⟩

theorem reads_string (text : String) : Reads depth (.string text) := by
  refine .of_succ (b := 0x22) rfl (by decide) fun fuel cursor tail hrest hblanks _ _ => ?_
  have hquoted : 0x22 :: cursor.advance.rest
      = Utf8.encode (printString printChar text) ++ tail := by
    rw [rest_advance hrest]
    rfl
  obtain ⟨cursor', htail, hread⟩ := readString_printString text hquoted
  refine ⟨cursor', htail, ?_⟩
  rw [readValue.eq_def]
  simp only [hblanks, hrest]
  change Except.bind (readString cursor.advance)
    (fun result => .ok (Json.string result.1, result.2)) = _
  rw [hread]
  rfl

theorem reads_integer {z : Int} (hlow : -9223372036854775808 ≤ z)
    (hhigh : z ≤ 18446744073709551615) : Reads depth (.integer z) := by
  -- a negative number begins with the sign, any other with its first digit
  by_cases hnegative : z < 0
  · have hbytes : (Json.integer z).toBytes = 0x2D :: Utf8.encode (Nat.toDigits 10 z.natAbs) := by
      rw [toBytes, printWith, printInt, if_pos hnegative]
      rfl
    refine .of_succ hbytes (by decide) fun fuel cursor tail hrest hblanks hstops _ => ?_
    obtain ⟨cursor', htail, hread⟩ := readNumber_encode true (n := z.natAbs)
      (by rw [maxSignificand]; omega) hstops (rest_advance hrest)
    refine ⟨cursor', htail, ?_⟩
    rw [readValue.eq_def]
    simp only [hblanks, hrest]
    refine hread.trans ?_
    rw [integerOf, if_pos rfl, if_pos (by omega)]
    congr
    omega
  · obtain ⟨b, rest, hdigits, hopens, hdigit⟩ := encode_toDigits_eq_cons z.natAbs
    have hbytes : (Json.integer z).toBytes = b :: rest := by
      rw [toBytes, printWith, printInt, if_neg hnegative, hdigits]
    refine .of_succ hbytes hopens fun fuel cursor tail hrest hblanks hstops _ => ?_
    have hnumber : cursor.rest = Utf8.encode (Nat.toDigits 10 z.natAbs) ++ tail := by
      rw [hdigits]
      exact hrest
    obtain ⟨cursor', htail, hread⟩ := readNumber_encode false (n := z.natAbs)
      (by rw [maxSignificand]; omega) hstops hnumber
    refine ⟨cursor', htail, ?_⟩
    rw [readValue.eq_def]
    simp only [hblanks, hrest]
    -- a digit is none of the bytes that other values begin with
    have hne {code : UInt8} (hcode : (digit? code).isSome = false) : b ≠ code := by
      rintro rfl
      exact absurd hdigit (by rw [hcode]; exact Bool.false_ne_true)
    rw [if_neg (hne (by decide)), if_neg (hne (by decide)), if_neg (hne (by decide)),
      if_neg (hne (by decide)), if_pos hdigit, hread, integerOf, if_neg Bool.false_ne_true,
      Int.natAbs_of_nonneg (by omega)]

/-! ### Lists -/

/-- What follows an item of a list, a comma or the bracket, is where a value `Stops`. -/
theorem stops_printItems (items : List Json) (tail : List UInt8) :
    Stops (Utf8.encode (printItems printChar items) ++ tail) := by
  cases items with
  | nil => exact stops_cons (.inl rfl)
  | cons item rest => exact stops_cons (.inr (.inl rfl))

/-- The items after the first are read, up to the end of the list. -/
theorem readItems_encode (fuel : Nat) (acc : List Json)
    (hitems : ∀ item ∈ items, Readable depth item ∧ Reads depth item)
    (h : cursor.rest = Utf8.encode (printItems printChar items) ++ tail)
    (hfuel : 2 * cursor.rest.length ≤ fuel) :
    ∃ cursor' : Cursor, cursor'.rest = tail ∧
      readItems fuel depth false cursor acc = .ok (.array (acc.reverse ++ items), cursor') := by
  -- by induction on the items that are left; each takes a byte at least, and a byte pays for the
  -- fuel of the item and of the list around it
  induction items generalizing cursor fuel acc with
  | nil =>
    have hrest : cursor.rest = 0x5D :: tail := h
    rw [hrest, List.length_cons] at hfuel
    cases fuel with
    | zero => omega
    | succ fuel =>
      refine ⟨_, rest_advance hrest, ?_⟩
      rw [readItems, skipBlanks_eq_self hrest (by decide), hrest, List.append_nil]
      rfl
  | cons item rest ih =>
    obtain ⟨⟨hreadable, hreads⟩, hrest⟩ := List.forall_mem_cons.1 hitems
    obtain ⟨b, bytes, hbytes, hnewline, hspace, htab, hreturn, hend, -⟩ := toBytes_eq_cons hreadable
    have hcomma : cursor.rest
        = 0x2C :: (item.toBytes ++ (Utf8.encode (printItems printChar rest) ++ tail)) := by
      rw [h, printItems, Utf8.encode_append, Utf8.encode_cons, List.append_assoc, List.append_assoc]
      rfl
    have hitem := rest_advance hcomma
    have hblanks : cursor.advance.skipBlanks = cursor.advance :=
      skipBlanks_eq_self (by rw [hitem, hbytes]; rfl) ⟨hnewline, hspace, htab, hreturn⟩
    rw [hcomma, List.length_cons, ← hitem] at hfuel
    cases fuel with
    | zero => omega
    | succ fuel =>
      obtain ⟨next, hnext, hread⟩ :=
        hreads fuel cursor.advance _ hitem (stops_printItems rest tail) (by omega)
      have hless : next.rest.length ≤ cursor.advance.rest.length := by
        rw [hnext, hitem]
        simp only [List.length_append]
        omega
      obtain ⟨cursor', htail, hall⟩ := ih fuel (item :: acc) hrest hnext (by omega)
      refine ⟨cursor', htail, ?_⟩
      rw [readItems, skipBlanks_eq_self hcomma (by decide), hcomma]
      dsimp only
      rw [if_neg (by decide), if_pos ⟨rfl, rfl⟩, hblanks, hitem, hbytes, List.cons_append]
      dsimp only
      rw [if_neg hend, hread]
      refine Eq.trans hall ?_
      rw [List.reverse_cons, List.append_assoc, List.singleton_append]

/-- A list of values that are read is read. -/
theorem reads_array (hitems : ∀ item ∈ items, Readable depth item ∧ Reads depth item) :
    Reads (depth + 1) (.array items) := by
  -- the opening bracket alone decides that items follow
  have hopen {fuel : Nat} {cursor : Cursor} {tail : List UInt8} (hrest : cursor.rest = 0x5B :: tail)
      (hblanks : cursor.skipBlanks = cursor) :
      readValue (fuel + 1) (depth + 1) cursor = readItems fuel depth true cursor.advance [] := by
    rw [readValue.eq_def]
    simp only [hblanks, hrest]
    rfl
  cases items with
  | nil =>
    have hbytes : (Json.array []).toBytes = [0x5B, 0x5D] := rfl
    refine .of_succ hbytes (by decide) fun fuel cursor tail hrest hblanks _ hfuel => ?_
    have hend := rest_advance hrest
    refine ⟨_, rest_advance hend, ?_⟩
    rw [hopen hrest hblanks]
    rw [hrest, List.length_cons] at hfuel
    cases fuel with
    | zero => omega
    | succ fuel =>
      rw [readItems, skipBlanks_eq_self hend (by decide), hend]
      rfl
  | cons item rest =>
    obtain ⟨⟨hreadable, hreads⟩, hothers⟩ := List.forall_mem_cons.1 hitems
    obtain ⟨b, bytes, hbytes, hnewline, hspace, htab, hreturn, hend, hcomma, -⟩ :=
      toBytes_eq_cons hreadable
    have hwhole : (Json.array (item :: rest)).toBytes
        = 0x5B :: (item.toBytes ++ Utf8.encode (printItems printChar rest)) := by
      rw [toBytes, printWith, Utf8.encode_append, Utf8.encode_cons]
      rfl
    refine .of_succ hwhole (by decide) fun fuel cursor tail hrest hblanks _ hfuel => ?_
    have hitem := rest_advance hrest
    rw [hopen hrest hblanks]
    rw [hrest, List.length_cons, ← hitem] at hfuel
    rw [List.append_assoc] at hitem
    cases fuel with
    | zero => omega
    | succ fuel =>
      obtain ⟨next, hnext, hread⟩ :=
        hreads fuel cursor.advance _ hitem (stops_printItems rest tail) (by omega)
      have hfirst : cursor.advance.rest
          = b :: (bytes ++ (Utf8.encode (printItems printChar rest) ++ tail)) := by
        rw [hitem, hbytes]
        rfl
      -- the first item takes at least one byte, so that there is fuel for the others
      have hless : next.rest.length < cursor.advance.rest.length := by
        rw [hnext, hfirst]
        simp only [List.length_cons, List.length_append]
        omega
      obtain ⟨cursor', htail, hall⟩ := readItems_encode fuel [item] hothers hnext (by omega)
      refine ⟨cursor', htail, ?_⟩
      rw [readItems, skipBlanks_eq_self hfirst ⟨hnewline, hspace, htab, hreturn⟩, hfirst]
      dsimp only
      rw [if_neg hend, if_neg (fun h => hcomma h.1), if_pos rfl, hread]
      exact hall

/-! ### Objects -/

/-- A name after all others is inserted last. -/
theorem insertEntry_eq_append {name : String} {acc : List (String × Json)}
    (h : ∀ entry ∈ acc, entry.1 < name) (value : Json) :
    insertEntry name value acc = acc ++ [(name, value)] := by
  induction acc with
  | nil => rfl
  | cons entry rest ih =>
    obtain ⟨hentry, hrest⟩ := List.forall_mem_cons.1 h
    obtain ⟨other, old⟩ := entry
    rw [insertEntry, if_neg (String.lt_asymm hentry), if_neg, ih hrest, List.cons_append]
    rintro rfl
    exact String.lt_irrefl _ hentry

theorem stops_printMembers (members : List (String × Json)) (tail : List UInt8) :
    Stops (Utf8.encode (printMembers printChar members) ++ tail) := by
  cases members with
  | nil => exact stops_cons (.inr (.inr rfl))
  | cons member rest => exact stops_cons (.inr (.inl rfl))

/-- The bytes of a member without the opening quote of its name. -/
theorem encode_member (name : String) (value : Json) :
    ∃ bytes, Utf8.encode (printString printChar name) = 0x22 :: bytes ∧
      Utf8.encode (printString printChar name ++ ':' :: printWith printChar value)
        = 0x22 :: (bytes ++ 0x3A :: value.toBytes) := by
  refine ⟨Utf8.encode (name.toList.flatMap printChar ++ ['"']), rfl, ?_⟩
  rw [Utf8.encode_append, Utf8.encode_cons, printString, List.cons_append, Utf8.encode_cons]
  rfl

/-- A member is read after the opening quote of its name, and so are the members after it. -/
theorem readMember_encode (fuel : Nat) {name : String} (acc : List (String × Json))
    {bytes : List UInt8}
    (hname : Utf8.encode (printString printChar name) = 0x22 :: bytes)
    (hacc : ∀ entry ∈ acc, entry.1 < name) (hreads : Reads depth value)
    (hrest : cursor.rest
      = bytes ++ 0x3A :: (value.toBytes ++ (Utf8.encode (printMembers printChar members) ++ tail)))
    (hfuel : 2 * cursor.rest.length + 1 ≤ fuel)
    (hothers : ∀ (fuel : Nat) (next : Cursor),
      next.rest = Utf8.encode (printMembers printChar members) ++ tail →
      2 * next.rest.length ≤ fuel → ∃ cursor' : Cursor, cursor'.rest = tail ∧
        readMembers fuel depth false next (acc ++ [(name, value)])
          = .ok (.object (acc ++ (name, value) :: members), cursor')) :
    ∃ cursor' : Cursor, cursor'.rest = tail ∧
      readMember fuel depth cursor acc
        = .ok (.object (acc ++ (name, value) :: members), cursor') := by
  cases fuel with
  | zero => omega
  | succ fuel =>
    have hquoted : 0x22 :: cursor.rest = Utf8.encode (printString printChar name) ++ 0x3A ::
        (value.toBytes ++ (Utf8.encode (printMembers printChar members) ++ tail)) := by
      rw [hname, hrest]
      rfl
    -- first the name, then the value behind the colon, then what the others leave
    obtain ⟨colon, hcolon, hread⟩ := readString_printString name hquoted
    have hvalue := rest_advance hcolon
    have hshort : colon.advance.rest.length < cursor.rest.length := by
      rw [hvalue, hrest]
      simp only [List.length_cons, List.length_append]
      omega
    obtain ⟨next, hnext, hreadValue⟩ :=
      hreads fuel colon.advance _ hvalue (stops_printMembers members tail) (by omega)
    have hshorter : next.rest.length ≤ colon.advance.rest.length := by
      rw [hnext, hvalue]
      simp only [List.length_append]
      omega
    obtain ⟨cursor', htail, hall⟩ := hothers fuel next hnext (by omega)
    refine ⟨cursor', htail, ?_⟩
    rw [readMember, hread]
    simp only [bind, Except.bind]
    rw [skipBlanks_eq_self hcolon (by decide), hcolon]
    dsimp only
    rw [if_pos rfl, hreadValue]
    dsimp only
    rw [insertEntry_eq_append hacc]
    exact hall

/-- The members after the first are read, up to the end of the object. -/
theorem readMembers_encode (hmembers : ∀ member ∈ members, Reads depth member.2)
    (acc : List (String × Json))
    (hnames : (acc ++ members).Pairwise fun first later => first.1 < later.1)
    (h : cursor.rest = Utf8.encode (printMembers printChar members) ++ tail)
    (hfuel : 2 * cursor.rest.length ≤ fuel) :
    ∃ cursor' : Cursor, cursor'.rest = tail ∧
      readMembers fuel depth false cursor acc = .ok (.object (acc ++ members), cursor') := by
  -- by induction on the members that are left; their names come after all that were read, so that
  -- each is inserted last
  induction members generalizing cursor fuel acc with
  | nil =>
    have hrest : cursor.rest = 0x7D :: tail := h
    rw [hrest, List.length_cons] at hfuel
    cases fuel with
    | zero => omega
    | succ fuel =>
      refine ⟨_, rest_advance hrest, ?_⟩
      rw [readMembers, skipBlanks_eq_self hrest (by decide), hrest, List.append_nil]
      rfl
  | cons member rest ih =>
    obtain ⟨name, value⟩ := member
    obtain ⟨hreads, hrest⟩ := List.forall_mem_cons.1 hmembers
    obtain ⟨bytes, hname, hmember⟩ := encode_member name value
    have hcomma : cursor.rest = 0x2C :: 0x22 :: (bytes ++ 0x3A :: (value.toBytes ++
        (Utf8.encode (printMembers printChar rest) ++ tail))) := by
      rw [h, printMembers, Utf8.encode_append, List.cons_append, Utf8.encode_cons, hmember]
      simp only [List.append_assoc, List.cons_append]
      rfl
    have hquote := rest_advance hcomma
    have hafter := rest_advance hquote
    have hacc : ∀ entry ∈ acc, entry.1 < name := fun entry hentry =>
      (List.pairwise_append.1 hnames).2.2 entry hentry _ List.mem_cons_self
    rw [hcomma, List.length_cons, List.length_cons, ← hafter] at hfuel
    cases fuel with
    | zero => omega
    | succ fuel =>
      obtain ⟨cursor', htail, hall⟩ := readMember_encode fuel acc hname hacc hreads hafter
        (by omega) fun fuel next hnext hfuel => by
          have hnames' : ((acc ++ [(name, value)]) ++ rest).Pairwise
              fun first later => first.1 < later.1 := by simpa using hnames
          simpa using ih hrest (acc ++ [(name, value)]) hnames' hnext hfuel
      refine ⟨cursor', htail, ?_⟩
      rw [readMembers, skipBlanks_eq_self hcomma (by decide), hcomma]
      dsimp only
      rw [if_neg (by decide), if_pos ⟨rfl, rfl⟩, skipBlanks_eq_self hquote (by decide), hquote]
      dsimp only
      rw [if_pos rfl]
      exact hall

/-- An object of values that are read is read. -/
theorem reads_object (hnames : members.Pairwise fun first later => first.1 < later.1)
    (hmembers : ∀ member ∈ members, Reads depth member.2) :
    Reads (depth + 1) (.object members) := by
  have hopen {fuel : Nat} {cursor : Cursor} {tail : List UInt8} (hrest : cursor.rest = 0x7B :: tail)
      (hblanks : cursor.skipBlanks = cursor) :
      readValue (fuel + 1) (depth + 1) cursor = readMembers fuel depth true cursor.advance [] := by
    rw [readValue.eq_def]
    simp only [hblanks, hrest]
    rfl
  -- an empty object ends where a name would begin
  cases members with
  | nil =>
    have hbytes : (Json.object []).toBytes = [0x7B, 0x7D] := rfl
    refine .of_succ hbytes (by decide) fun fuel cursor tail hrest hblanks _ hfuel => ?_
    have hend := rest_advance hrest
    refine ⟨_, rest_advance hend, ?_⟩
    rw [hopen hrest hblanks]
    rw [hrest, List.length_cons] at hfuel
    cases fuel with
    | zero => omega
    | succ fuel =>
      rw [readMembers, skipBlanks_eq_self hend (by decide), hend]
      rfl
  | cons member rest =>
    obtain ⟨name, value⟩ := member
    obtain ⟨hreads, hothers⟩ := List.forall_mem_cons.1 hmembers
    obtain ⟨bytes, hname, hmember⟩ := encode_member name value
    have hwhole : (Json.object ((name, value) :: rest)).toBytes = 0x7B :: 0x22 ::
        (bytes ++ 0x3A :: (value.toBytes ++ Utf8.encode (printMembers printChar rest))) := by
      rw [toBytes, printWith, Utf8.encode_append, List.cons_append, Utf8.encode_cons, hmember]
      simp only [List.append_assoc, List.cons_append]
      rfl
    refine .of_succ hwhole (by decide) fun fuel cursor tail hrest hblanks _ hfuel => ?_
    simp only [List.append_assoc, List.cons_append] at hrest
    have hquote := rest_advance hrest
    have hafter := rest_advance hquote
    rw [hopen hrest hblanks]
    rw [hrest, List.length_cons, List.length_cons, ← hafter] at hfuel
    cases fuel with
    | zero => omega
    | succ fuel =>
      obtain ⟨cursor', htail, hall⟩ := readMember_encode fuel [] hname
        (fun _ hmem => (List.not_mem_nil hmem).elim) hreads hafter (by omega)
        fun fuel next hnext hfuel => readMembers_encode hothers [(name, value)] hnames hnext hfuel
      refine ⟨cursor', htail, ?_⟩
      rw [readMembers, skipBlanks_eq_self hquote (by decide), hquote]
      dsimp only
      rw [if_neg (by decide), if_neg (by decide), if_pos rfl, if_pos rfl]
      exact hall

/-- Every such value is read as it was written. -/
theorem Readable.reads (h : Readable depth value) : Reads depth value := by
  induction h with
  | null => exact reads_null
  | bool value => exact reads_bool value
  | integer hlow hhigh => exact reads_integer hlow hhigh
  | string text => exact reads_string text
  | array hitems ih => exact reads_array fun item hitem => ⟨hitems item hitem, ih item hitem⟩
  | object hnames _ ih => exact reads_object hnames ih

/-- What was written is read as it was. -/
theorem read_toBytes (h : Readable maxDepth value) : Json.read value.toBytes = .ok value := by
  obtain ⟨cursor', htail, hread⟩ := h.reads (2 * value.toBytes.length + 2)
    (Cursor.start value.toBytes) [] (by rw [List.append_nil]; rfl) (by simp [Stops])
    (Nat.le_add_right _ _)
  have hblanks : cursor'.skipBlanks.rest = [] := by
    rw [Cursor.skipBlanks, htail]
    rfl
  rw [Json.read, hread]
  simp only [bind, Except.bind, hblanks]

end Values

end Messaging.Json
