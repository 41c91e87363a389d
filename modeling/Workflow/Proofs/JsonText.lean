import Workflow.Proofs.Document
import Workflow.Proofs.NumberText

/-!
# JSON text that is read back

The JSON text of a value is read as the same value.  Every part of the text is read in front of what
follows it: a text up to its closing quote, a number up to what cannot go on with it, and a list or
a mapping up to its closing bracket.
-/

namespace Workflow.Json

open Number

/-! ## Characters -/

theorem hexValue?_hexDigit : ∀ {digit : Nat}, digit < 16 →
    hexValue? (Text.hexDigit digit) = some digit := by
  decide

theorem readUnit?_hex {code : Nat} (unit : code < 0x10000) (rest : List Char) :
    readUnit? (Text.hex 4 code ++ rest) = some (code, rest) := by
  have first : hexValue? (Text.hexDigit (code / 16 / 16 / 16 % 16)) =
      some (code / 16 / 16 / 16 % 16) :=
    hexValue?_hexDigit (Nat.mod_lt _ (by decide))
  have second : hexValue? (Text.hexDigit (code / 16 / 16 % 16)) = some (code / 16 / 16 % 16) :=
    hexValue?_hexDigit (Nat.mod_lt _ (by decide))
  have third : hexValue? (Text.hexDigit (code / 16 % 16)) = some (code / 16 % 16) :=
    hexValue?_hexDigit (Nat.mod_lt _ (by decide))
  have fourth : hexValue? (Text.hexDigit (code % 16)) = some (code % 16) :=
    hexValue?_hexDigit (Nat.mod_lt _ (by decide))
  simp [Text.hex, readUnit?, first, second, third, fourth]
  omega

@[simp] theorem length_hex (width code : Nat) : (Text.hex width code).length = width := by
  induction width generalizing code with
  | zero => rfl
  | succ width ih => simp [Text.hex, ih]

/-- A character is no unit of a broken pair. -/
theorem not_unit (c : Char) : isHighUnit c.toNat = false ∧ isLowUnit c.toNat = false := by
  have valid : c.toNat < 0xd800 ∨ 0xdfff < c.toNat ∧ c.toNat < 0x110000 := c.valid
  simp only [isHighUnit, isLowUnit, Bool.and_eq_false_iff, decide_eq_false_iff_not]
  omega

theorem readEscape_unit (opening : List Char) {c next : Char} (unit : c.toNat < 0x10000)
    (rest : List Char) :
    readEscape opening ('u' :: (Text.hex 4 c.toNat ++ next :: rest)) = .ok (c, next :: rest) := by
  obtain ⟨notHigh, notLow⟩ := not_unit c
  have alone : readPair? c.toNat (next :: rest) = .ok none := by
    simp only [readPair?, notHigh]
    split <;> simp
  have char : unitChar c.toNat = c := by
    simp [unitChar, notHigh, notLow]
  simp [readEscape, readUnit?_hex unit, alone, char, bind, Except.bind]

/-- The units that stand for a character beyond sixteen bits. -/
theorem pairChar_units {c : Char} (beyond : 0x10000 ≤ c.toNat) :
    pairChar (0xd800 + (c.toNat - 0x10000) / 0x400) (0xdc00 + (c.toNat - 0x10000) % 0x400) = c := by
  generalize held : c.toNat = code at beyond
  have sum : 0x10000 + (0xd800 + (code - 0x10000) / 0x400 - 0xd800) * 0x400 +
      (0xdc00 + (code - 0x10000) % 0x400 - 0xdc00) = code := by
    omega
  rw [pairChar, sum, ← held, Char.ofNat_toNat]

theorem isHighUnit_first {c : Char} : isHighUnit (0xd800 + (c.toNat - 0x10000) / 0x400) = true := by
  have valid : c.toNat < 0x110000 := by
    have range : c.toNat < 0xd800 ∨ 0xdfff < c.toNat ∧ c.toNat < 0x110000 := c.valid
    omega
  generalize c.toNat = code at valid
  simp only [isHighUnit, Bool.and_eq_true, decide_eq_true_eq]
  omega

theorem isLowUnit_second (code : Nat) : isLowUnit (0xdc00 + code % 0x400) = true := by
  simp only [isLowUnit, Bool.and_eq_true, decide_eq_true_eq]
  omega

theorem readPair?_unitEscape {high low : Nat} (first : isHighUnit high = true)
    (second : isLowUnit low = true) (next : Char) (rest : List Char) :
    readPair? high (unitEscape low ++ next :: rest) =
      .ok (some (pairChar high low, next :: rest)) := by
  have unit : low < 0x10000 := by
    simp only [isLowUnit, Bool.and_eq_true, decide_eq_true_eq] at second
    omega
  simp [unitEscape, readPair?, first, second, readUnit?_hex unit]

theorem readEscape_pair (opening : List Char) {high low : Nat} (first : isHighUnit high = true)
    (second : isLowUnit low = true) (next : Char) (rest : List Char) :
    readEscape opening ('u' :: (Text.hex 4 high ++ (unitEscape low ++ next :: rest))) =
      .ok (pairChar high low, next :: rest) := by
  have unit : high < 0x10000 := by
    simp only [isHighUnit, Bool.and_eq_true, decide_eq_true_eq] at first
    omega
  have both := readPair?_unitEscape first second next rest
  simp only [unitEscape, List.cons_append] at both
  simp [readEscape, readUnit?_hex unit, unitEscape, both, bind, Except.bind]

theorem readText_backslash {opening rest after : List Char} {c : Char} {fuel : Nat}
    (escaped : readEscape opening rest = .ok (c, after)) :
    readText opening (fuel + 1) ('\\' :: rest) =
      (readText opening fuel after).map fun read => (c :: read.1, read.2) := by
  simp only [readText, escaped, bind, Except.bind]
  cases readText opening fuel after <;> simp [Except.map]

theorem readEscape_simple (opening rest : List Char) {letter c : Char}
    (char : simpleEscape? letter = some c) :
    readEscape opening (letter :: rest) = .ok (c, rest) := by
  unfold readEscape
  split
  · next same => cases same
  · next same =>
      cases same
      simp [simpleEscape?] at char
  · next same =>
      cases same
      simp [char]

/-- The ways of writing a character: by a letter after a backslash, as it stands, by one unit, or by
two units. -/
theorem escape_cases (c : Char) :
    (∃ letter, escape c = ['\\', letter] ∧ simpleEscape? letter = some c) ∨
      (escape c = [c] ∧ c ≠ '"' ∧ c ≠ '\\' ∧ 32 ≤ c.toNat) ∨
      (escape c = unitEscape c.toNat ∧ c.toNat < 0x10000) ∨
      (∃ high low, escape c = unitEscape high ++ unitEscape low ∧ isHighUnit high = true ∧
        isLowUnit low = true ∧ pairChar high low = c) := by
  have lettered {letter : Char} (mark : Char) (same : c = mark)
      (char : simpleEscape? letter = some mark) (written : escape mark = ['\\', letter]) :
      ∃ letter, escape c = ['\\', letter] ∧ simpleEscape? letter = some c :=
    ⟨letter, by rw [same, written], by rw [same, char]⟩
  by_cases quote : c = '"'
  · exact .inl (lettered '"' quote rfl rfl)
  by_cases backslash : c = '\\'
  · exact .inl (lettered '\\' backslash rfl rfl)
  by_cases newline : c = '\n'
  · exact .inl (lettered '\n' newline rfl rfl)
  by_cases back : c = '\r'
  · exact .inl (lettered '\r' back rfl rfl)
  by_cases tab : c = '\t'
  · exact .inl (lettered '\t' tab rfl rfl)
  by_cases backspace : c = '\x08'
  · exact .inl (lettered '\x08' backspace rfl rfl)
  by_cases feed : c = '\x0c'
  · exact .inl (lettered '\x0c' feed rfl rfl)
  right
  simp only [escape, quote, backslash, newline, back, tab, backspace, feed, if_false]
  split
  · next plain =>
      simp only [Bool.and_eq_true, decide_eq_true_eq] at plain
      exact .inl ⟨rfl, quote, backslash, plain.1⟩
  · right
    split
    · next unit => exact .inl ⟨rfl, unit⟩
    · next beyond =>
        exact .inr ⟨_, _, rfl, isHighUnit_first, isLowUnit_second _, pairChar_units (by omega)⟩

/-- A character is read from what is written for it.  An escaped unit is only read where something
follows it. -/
theorem readText_escape (opening : List Char) (fuel : Nat) (c next : Char) (rest : List Char) :
    readText opening (fuel + 1) (escape c ++ next :: rest) =
      (readText opening fuel (next :: rest)).map fun read => (c :: read.1, read.2) := by
  obtain ⟨letter, written, char⟩ | ⟨written, notQuote, notBackslash, visible⟩ | ⟨written, unit⟩ |
    ⟨high, low, written, first, second, char⟩ := escape_cases c
  · rw [written]
    exact readText_backslash (readEscape_simple opening (next :: rest) char)
  · have notControl : ¬ c.toNat < 32 := by omega
    rw [written, List.singleton_append]
    simp only [readText, notQuote, notBackslash, notControl, if_false, bind, Except.bind]
    cases readText opening fuel (next :: rest) <;> simp [Except.map]
  · rw [written]
    exact readText_backslash (readEscape_unit opening unit rest)
  · rw [written, ← char, List.append_assoc]
    exact readText_backslash (readEscape_pair opening first second next rest)

/-- A text is read up to the quote that closes it. -/
theorem readText_quoted (opening : List Char) {fuel : Nat} {cs : List Char}
    (bound : cs.length < fuel)
    (rest : List Char) :
    readText opening fuel (cs.flatMap escape ++ '"' :: rest) = .ok (cs, rest) := by
  induction cs generalizing fuel with
  | nil =>
      obtain ⟨left, rfl⟩ := Nat.exists_eq_add_of_lt bound
      simp [readText]
  | cons c cs ih =>
      obtain ⟨left, rfl⟩ : ∃ left, fuel = left + 1 := ⟨fuel - 1, by omega⟩
      have later := @ih left (by simpa using bound)
      cases inside : cs.flatMap escape ++ '"' :: rest with
      | nil => simp at inside
      | cons next more =>
          rw [inside] at later
          rw [List.flatMap_cons, List.append_assoc, inside, readText_escape, later]
          rfl

/-! ## Numbers -/

theorem scalar_int (value : Int) :
    scalar (.int value) = (if value < 0 then ['-'] else []) ++ digitText value.natAbs := by
  rw [scalar, Int.toString_eq_repr, Int.repr_eq_if]
  by_cases negative : value < 0
  · have size : (-value).toNat = value.natAbs := by omega
    simp [negative, Int.not_le.mpr negative, digitText, size]
  · have size : value.toNat = value.natAbs := by omega
    simp [negative, Int.not_lt.mp negative, digitText, size]

/-- What begins with a digit, or with a sign and a digit, is no word. -/
theorem readScalar_digit {digit : Char} (isDigit : digit.isDigit = true) (negative : Bool)
    (rest : List Char) :
    readScalar ((if negative then ['-'] else []) ++ digit :: rest) =
      readNumber ((if negative then ['-'] else []) ++ digit :: rest) := by
  have other {letter : Char} (notDigit : letter.isDigit = false) : letter ≠ digit := by
    intro same
    rw [same, isDigit] at notDigit
    cases notDigit
  have n := @other 'n' rfl
  have t := @other 't' rfl
  have f := @other 'f' rfl
  have N := @other 'N' rfl
  have I := @other 'I' rfl
  have minus := @other '-' rfl
  cases negative <;> simp [readScalar, wordScalars, n, t, f, N, I, minus]

theorem readScalar_int {value : Int} (short : isReadableInteger value = true) {rest : List Char}
    (ends : Ends rest) : readScalar (scalar (.int value) ++ rest) = .ok (.int value, rest) := by
  have short : (digitText value.natAbs).length ≤ digitLimit := by
    simpa [isReadableInteger] using short
  have number := readNumber_digitText short (value < 0) ends
  rw [signed_natAbs] at number
  rw [scalar_int, List.append_assoc]
  cases written : digitText value.natAbs with
  | nil => exact absurd written (by simp [digitText_eq_toDigits])
  | cons digit more =>
      have isDigit := @isDigit_of_mem_digitText value.natAbs digit (by simp [written])
      have scalar := readScalar_digit isDigit (value < 0) (more ++ rest)
      rw [written] at number
      simp only [decide_eq_true_eq] at scalar number
      exact scalar.trans number

/-- A number other than not-a-number is read from its text. -/
theorem readScalar_float {value : Binary64} (json : (Scalar.float value).isJson = true)
    {rest : List Char} (ends : Ends rest) :
    readScalar (scalar (.float value) ++ rest) = .ok (.float value, rest) := by
  cases value with
  | nan => cases json
  | infinite negative => cases negative <;> rfl
  | finite negative size =>
      have number := readNumber_text negative size jsonLayout ends
      obtain ⟨digit, more, isDigit, written⟩ := toList_text_eq_cons negative size jsonLayout
      rw [written, List.append_assoc, List.cons_append] at number
      rw [scalar, written, List.append_assoc, List.cons_append, readScalar_digit isDigit]
      exact number

/-! ## Values -/

theorem readScalar_scalar {value : Scalar} (json : value.isJson = true)
    (notText : ∀ content, value ≠ .text content) {rest : List Char} (ends : Ends rest) :
    readScalar (scalar value ++ rest) = .ok (value, rest) := by
  cases value with
  | null => rfl
  | bool value => cases value <;> rfl
  | int value => exact readScalar_int json ends
  | float value => exact readScalar_float json ends
  | text content => exact absurd rfl (notText content)
  | date | timestamp | bytes => cases json

/-- The characters with which no word and no number begins: blanks, quotes, brackets and the byte
order mark. -/
def isMark (c : Char) : Bool :=
  isSpace c || c = '"' || c = '[' || c = ']' || c = '\x7b' || c = '\ufeff'

theorem readScalar_mark {c : Char} (mark : isMark c = true) (rest : List Char) :
    readScalar (c :: rest) = .error (.malformed .expectingValue (rest.length + 1)) := by
  simp only [isMark, isSpace, Bool.or_eq_true, decide_eq_true_eq] at mark
  obtain (((((((rfl | rfl) | rfl) | rfl) | rfl) | rfl) | rfl) | rfl) | rfl := mark <;> rfl

theorem begins_scalar {value : Scalar} (json : value.isJson = true)
    (notText : ∀ content, value ≠ .text content) :
    ∃ c rest, scalar value = c :: rest ∧ isMark c = false := by
  have reads := readScalar_scalar json notText Ends.nil
  rw [List.append_nil] at reads
  cases written : scalar value with
  | nil =>
      rw [written] at reads
      cases reads
  | cons c rest =>
      refine ⟨c, rest, rfl, ?_⟩
      rw [← Bool.not_eq_true]
      intro mark
      rw [written, readScalar_mark mark] at reads
      cases reads

theorem begins_chars {value : Value} (json : value.isJson = true) :
    ∃ c rest, chars value = c :: rest ∧ isSpace c = false ∧ c ≠ ']' ∧ c ≠ '\ufeff' := by
  match value with
  | .scalar value =>
      by_cases text : ∃ content, value = .text content
      · obtain ⟨content, rfl⟩ := text
        exact ⟨'"', _, rfl, rfl, by decide, by decide⟩
      · obtain ⟨c, rest, written, plain⟩ :=
          begins_scalar json fun content same => text ⟨content, same⟩
        simp only [isMark, Bool.or_eq_false_iff, decide_eq_false_iff_not] at plain
        exact ⟨c, rest, written, plain.1.1.1.1.1, plain.1.1.2, plain.2⟩
  | .list [] => exact ⟨'[', _, rfl, rfl, by decide, by decide⟩
  | .list (item :: items) => exact ⟨'[', _, rfl, rfl, by decide, by decide⟩
  | .dict [] => exact ⟨'\x7b', _, rfl, rfl, by decide, by decide⟩
  | .dict ((name, value) :: entries) => exact ⟨'\x7b', _, rfl, rfl, by decide, by decide⟩
  | .group _ | .set _ | .loop _ _ => cases json

theorem skipSpace_chars {value : Value} (json : value.isJson = true) (rest : List Char) :
    skipSpace (chars value ++ rest) = chars value ++ rest := by
  obtain ⟨c, more, written, notSpace, _⟩ := begins_chars json
  simp [written, skipSpace, notSpace]

@[simp] theorem skipSpace_blank (rest : List Char) : skipSpace (' ' :: rest) = skipSpace rest := rfl

@[simp] theorem skipSpace_comma (rest : List Char) : skipSpace (',' :: rest) = ',' :: rest := rfl

@[simp] theorem skipSpace_colon (rest : List Char) : skipSpace (':' :: rest) = ':' :: rest := rfl

theorem quote_append (content : String) (rest : List Char) :
    quote content ++ rest = '"' :: (content.toList.flatMap escape ++ ['"'] ++ rest) := rfl

@[simp] theorem skipSpace_quote (content : String) (rest : List Char) :
    skipSpace (quote content ++ rest) = quote content ++ rest := rfl

theorem length_flatMap_escape (cs : List Char) : cs.length ≤ (cs.flatMap escape).length := by
  induction cs with
  | nil => simp
  | cons c cs ih =>
      have one : 1 ≤ (escape c).length := by
        obtain ⟨_, written, _⟩ | ⟨written, _⟩ | ⟨written, _⟩ | ⟨_, _, written, _⟩ :=
          escape_cases c <;>
          simp [written, unitEscape]
      simp only [List.flatMap_cons, List.length_append, List.length_cons]
      omega

/-- A quoted text is read up to its closing quote. -/
theorem readText_quote (opening : List Char) {fuel : Nat} {content : String}
    (bound : (quote content).length ≤ fuel) (rest : List Char) :
    readText opening fuel (content.toList.flatMap escape ++ ['"'] ++ rest) =
      .ok (content.toList, rest) := by
  have escaped := length_flatMap_escape content.toList
  simp only [quote, List.length_cons, List.length_append] at bound
  rw [List.append_assoc]
  exact readText_quoted opening (by omega) rest

theorem readValue_quote {fuel : Nat} {content : String} (bound : 2 * (quote content).length ≤ fuel)
    (rest : List Char) : readValue fuel (quote content ++ rest) = .ok (.text content, rest) := by
  have some : 2 ≤ (quote content).length := by simp [quote]
  obtain ⟨left, rfl⟩ : ∃ left, fuel = left + 1 := ⟨fuel - 1, by omega⟩
  have inside := readText_quote ('"' :: (content.toList.flatMap escape ++ ['"'] ++ rest))
    (show (quote content).length ≤ left by omega) rest
  rw [quote, List.cons_append, readValue, inside]
  simp [bind, Except.bind]

theorem readValue_scalar {fuel : Nat} {value : Scalar} (json : value.isJson = true)
    (notText : ∀ content, value ≠ .text content) {rest : List Char} (ends : Ends rest) :
    readValue (fuel + 1) (scalar value ++ rest) = .ok (.scalar value, rest) := by
  have reads := readScalar_scalar json notText ends
  obtain ⟨c, more, written, plain⟩ := begins_scalar json notText
  simp only [isMark, Bool.or_eq_false_iff, decide_eq_false_iff_not] at plain
  rw [written, List.cons_append] at reads ⊢
  rw [readValue]
  · simp [reads, bind, Except.bind]
  · intro other same
    cases same
    exact plain.1.1.1.1.2 rfl
  · intro other same
    cases same
    exact plain.1.1.1.2 rfl
  · intro other same
    cases same
    exact plain.1.2 rfl

theorem readValue_brace (fuel : Nat) (name : String) (rest : List Char) :
    readValue (fuel + 1) ('\x7b' :: (quote name ++ rest)) =
      (readEntries fuel (quote name ++ rest)).map fun read =>
        (.dict (Dict.ofEntries read.1), read.2) := by
  rw [readValue, skipSpace_quote]
  split
  · next same => cases same
  · cases readEntries fuel (quote name ++ rest) <;> rfl

/-- What comes after an item of a list. -/
theorem ends_itemsTail (items : List Value) (rest : List Char) :
    Ends (itemsTail items ++ rest) := by
  cases items <;> simp [itemsTail, Ends]

/-- What comes after an entry of a mapping. -/
theorem ends_entriesTail (entries : List (Scalar × Value)) (rest : List Char) :
    Ends (entriesTail entries ++ rest) := by
  match entries with
  | [] => simp [entriesTail, Ends]
  | (_, _) :: _ => simp [entriesTail, Ends]

mutual

/-- A value is read from its text, in front of anything that ends it. -/
theorem readValue_chars (fuel : Nat) {value : Value} (json : value.isJson = true)
    (bound : 2 * (chars value).length ≤ fuel) {rest : List Char} (ends : Ends rest) :
    readValue fuel (chars value ++ rest) = .ok (value, rest) := by
  obtain ⟨c, more, written, _⟩ := begins_chars json
  obtain ⟨left, rfl⟩ : ∃ left, fuel = left + 1 :=
    ⟨fuel - 1, by rw [written, List.length_cons] at bound; omega⟩
  match value with
  | .scalar value =>
      by_cases text : ∃ content, value = .text content
      · obtain ⟨content, rfl⟩ := text
        exact readValue_quote bound rest
      · exact readValue_scalar json (fun content same => text ⟨content, same⟩) ends
  | .list [] => rfl
  | .list (item :: items) =>
      have each : Value.areJson (item :: items) = true := json
      simp only [chars, List.length_cons] at bound
      have reads := readItems_chars left each (by omega) rest
      simp only [Value.areJson, Bool.and_eq_true] at each
      obtain ⟨first, inside, begins, _, notBracket, _⟩ := begins_chars each.1
      have blank := skipSpace_chars each.1 (itemsTail items ++ rest)
      rw [chars, List.cons_append, readValue, List.append_assoc, blank]
      split
      · next same =>
          rw [begins, List.cons_append] at same
          cases same
          exact absurd rfl notBracket
      · simp [reads, bind, Except.bind]
  | .dict [] => rfl
  | .dict ((name, value) :: entries) =>
      obtain ⟨⟨name, rfl⟩, _⟩ := Value.holdJson_cons json
      simp only [chars, key, List.length_cons, List.length_append] at bound
      have reads := readEntries_chars left json (by simp only [List.length_append]; omega) rest
      have keyed := Dict.ofEntries_eq_self (Value.keyedByText_of_holdJson json)
      simp only [chars, key, List.cons_append, List.append_assoc, readValue_brace, reads, keyed,
        Except.map]
  | .group _ | .set _ | .loop _ _ => cases json
termination_by fuel

/-- The items of a list are read up to the closing bracket. -/
theorem readItems_chars (fuel : Nat) {item : Value} {items : List Value}
    (json : Value.areJson (item :: items) = true)
    (bound : 2 * (chars item ++ itemsTail items).length ≤ fuel) (rest : List Char) :
    readItems fuel (chars item ++ (itemsTail items ++ rest)) = .ok (item :: items, rest) := by
  have tail : 1 ≤ (itemsTail items).length := by
    cases items <;> simp [itemsTail]
  rw [List.length_append] at bound
  obtain ⟨left, rfl⟩ : ∃ left, fuel = left + 1 := ⟨fuel - 1, by omega⟩
  simp only [Value.areJson, Bool.and_eq_true] at json
  have first := readValue_chars left json.1 (by omega) (ends_itemsTail items rest)
  rw [readItems, first]
  match items with
  | [] => rfl
  | next :: others =>
      simp only [itemsTail, List.length_cons] at bound
      have later := readItems_chars left json.2 (by omega) rest
      simp only [Value.areJson, Bool.and_eq_true] at json
      have blank := skipSpace_chars json.2.1 (itemsTail others ++ rest)
      have blanks : skipSpace (' ' :: (chars next ++ (itemsTail others ++ rest))) =
          chars next ++ (itemsTail others ++ rest) := blank
      simp [itemsTail, skipSpace_comma, blanks, later, bind, Except.bind]
termination_by fuel

/-- The entries of a mapping are read up to the closing brace. -/
theorem readEntries_chars (fuel : Nat) {name : String} {value : Value}
    {entries : List (Scalar × Value)}
    (json : Value.holdJson ((.text name, value) :: entries) = true)
    (bound : 2 * (quote name ++ chars value ++ entriesTail entries).length ≤ fuel)
    (rest : List Char) :
    readEntries fuel (quote name ++ ':' :: ' ' :: (chars value ++ (entriesTail entries ++ rest))) =
      .ok ((.text name, value) :: entries, rest) := by
  obtain ⟨_, _, json', others⟩ := Value.holdJson_cons json
  simp only [List.length_append] at bound
  have some : 2 ≤ (quote name).length := by simp [quote]
  obtain ⟨left, rfl⟩ : ∃ left, fuel = left + 1 := ⟨fuel - 1, by omega⟩
  have texts := fun rest => readText_quote ('"' :: (name.toList.flatMap escape ++ ['"'] ++ rest))
    (show (quote name).length ≤ left by omega) rest
  have first := readValue_chars left json' (by omega) (ends_entriesTail entries rest)
  have blank := skipSpace_chars json' (entriesTail entries ++ rest)
  rw [quote_append, readEntries, texts]
  simp only [bind, Except.bind, skipSpace_colon, skipSpace_blank, blank, first,
    String.ofList_toList]
  match entries with
  | [] => rfl
  | (other, next) :: more =>
      obtain ⟨⟨later, rfl⟩, _⟩ := Value.holdJson_cons others
      simp only [entriesTail, key, List.length_cons, List.length_append] at bound
      have reads := readEntries_chars left others (by simp only [List.length_append]; omega) rest
      simp only [entriesTail, key, List.cons_append, List.append_assoc, skipSpace_comma,
        skipSpace_blank, skipSpace_quote, reads]
termination_by fuel

end

/-- The text of a value is read as the value. -/
theorem read_render {value : Value} (json : value.isJson = true) :
    read (render value) = .ok value := by
  obtain ⟨c, rest, written, notSpace, _, notMark⟩ := begins_chars json
  have reads := readValue_chars (2 * (chars value).length + 2) json (by omega) Ends.nil
  have blank := skipSpace_chars json []
  rw [List.append_nil] at reads blank
  have decoded : readDecoded (render value) = .ok value := by
    simp only [readDecoded, render, String.toList_ofList, blank, reads]
    rfl
  rw [read]
  split
  · next mark =>
      simp only [render, String.toList_ofList, written, List.cons.injEq] at mark
      exact absurd mark.1 notMark
  · exact decoded

mutual

theorem fault?_of_isJson (dates : Bool) (value : Value) (json : value.isJson = true) :
    fault? dates value = none := by
  cases value with
  | scalar value =>
      cases value <;> simp_all [fault?, scalarFault?, isForeign, Value.isJson, Scalar.isJson]
  | list items => exact itemsFault?_of_areJson dates items json
  | dict entries => exact entriesFault?_of_holdJson dates entries json
  | group | set | loop => cases json

theorem itemsFault?_of_areJson (dates : Bool) (items : List Value)
    (json : Value.areJson items = true) : itemsFault? dates items = none := by
  cases items with
  | nil => rfl
  | cons item rest =>
      simp only [Value.areJson, Bool.and_eq_true] at json
      simp [itemsFault?, fault?_of_isJson dates item json.1,
        itemsFault?_of_areJson dates rest json.2]

theorem entriesFault?_of_holdJson (dates : Bool) (entries : List (Scalar × Value))
    (json : Value.holdJson entries = true) : entriesFault? dates entries = none := by
  match entries with
  | [] => rfl
  | (key, value) :: rest =>
      obtain ⟨⟨name, rfl⟩, _, first, others⟩ := Value.holdJson_cons json
      simp [entriesFault?, keyFault?, isForeign, fault?_of_isJson dates value first,
        entriesFault?_of_holdJson dates rest others]

end

/-- A value that a JSON text can hold is written, and what is written is read as that value. -/
theorem write_eq_render {value : Value} (json : value.isJson = true) :
    write value = .ok (render value) := by
  rw [write, fault?_of_isJson false value json]

end Workflow.Json
