import CdcSerial.Json.Reader
import CdcSerial.Json.Writer
import CdcSerial.Proofs.Spelling

/-!
# Reading what was written

A value that follows the grammar is read back from its text. What comes back is the value up to one
choice of spelling: a control character without a short escape is written as an escaped unit, and as
such it is read. Both denote the same character.

The reader runs on fuel. An array or an object with its marks is longer than what it holds, so the
length of a text is enough for the value that it spells.
-/

namespace CdcSerial

namespace Numeral

variable {radix : Nat}

theorem accumulate_zeros (large : 1 < radix) (small : radix ≤ 16) (count : Nat)
    (digits : List Char) :
    accumulate radix 0 (List.replicate count '0' ++ digits) = accumulate radix 0 digits := by
  have zero : digitValue? radix '0' = some 0 :=
    digitValue?_digitChar small (Nat.lt_of_succ_lt large)
  induction count with
  | zero => rfl
  | succ count ih => simpa [List.replicate_succ, accumulate, zero] using ih

theorem accumulate_writePadded (large : 1 < radix) (small : radix ≤ 16) (width number : Nat) :
    accumulate radix 0 (writePadded radix width number) = some number := by
  rw [writePadded, accumulate_zeros large small, accumulate_write large small]

theorem writePadded_length (large : 1 < radix) {width number : Nat} (positive : 0 < width)
    (fits : number < radix ^ width) : (writePadded radix width number).length = width := by
  have short : (write radix number).length ≤ width :=
    (Nat.length_toDigits_le_iff large positive).mpr fits
  simp only [writePadded, List.length_append, List.length_replicate]
  omega

theorem readDigits?_write (large : 1 < radix) (small : radix ≤ 16) (number : Nat) :
    readDigits? radix (write radix number) = some number := by
  rw [readDigits?, accumulate_write large small]
  exact Nat.toDigits_ne_nil

end Numeral

namespace Json

/-- That a text is at its end or goes on with one of these characters. -/
def GoesOn (marks rest : List Char) : Prop := ∀ mark ∈ rest.head?, mark ∈ marks

/-- The marks that may follow a value. -/
def closers : List Char := [',', ']', '}']

theorem goesOn_nil (marks : List Char) : GoesOn marks [] := by simp [GoesOn]

theorem goesOn_cons {marks rest : List Char} {mark : Char} (known : mark ∈ marks) :
    GoesOn marks (mark :: rest) := by
  simpa [GoesOn] using known

theorem GoesOn.mono {marks more rest : List Char} (goesOn : GoesOn marks rest)
    (within : marks ⊆ more) :
    GoesOn more rest :=
  fun mark first => within (goesOn mark first)

/-! ## Numbers -/

/-- One or more decimal digits. -/
def Digits (text : List Char) : Prop := text ≠ [] ∧ text.all isDigit = true

instance (text : List Char) : Decidable (Digits text) := inferInstanceAs (Decidable (_ ∧ _))

/-- That a literal follows the grammar: no part is empty, and a zero in front stands alone. -/
@[mk_iff]
structure Number.WellFormed (number : Number) : Prop where
  whole : Digits number.whole
  zero : number.whole.head? = some '0' → number.whole = ['0']
  fraction : ∀ digits ∈ number.fraction, Digits digits
  power : ∀ power ∈ number.power, Digits power.2

instance (number : Number) : Decidable number.WellFormed :=
  decidable_of_iff' _ number.wellFormed_iff

theorem isDigit_of_mem_write {number : Nat} {character : Char}
    (member : character ∈ Numeral.write 10 number) : isDigit character = true := by
  rcases Numeral.mem_write (by omega) member with ⟨digit, below, rfl⟩
  simp [isDigit, Numeral.digitValue?_digitChar (by omega) below]

theorem Number.ofNat_wellFormed (number : Nat) : (Number.ofNat number).WellFormed where
  whole := ⟨Nat.toDigits_ne_nil, List.all_eq_true.mpr fun _ => isDigit_of_mem_write⟩
  zero := (Numeral.write_plain (by omega) (by omega) number).2.2
  fraction := by simp [Number.ofNat]
  power := by simp [Number.ofNat]

theorem Digits.append_ne {text : List Char} (digits : Digits text) (other : Char)
    (noDigit : isDigit other = false) (rest tail : List Char) : text ++ rest ≠ other :: tail := by
  rcases digits with ⟨nonempty, each⟩
  cases text with
  | nil => exact absurd rfl nonempty
  | cons first text =>
      rintro ⟨rfl, -⟩
      simp [noDigit] at each

theorem readDigits?_append {text rest : List Char} (digits : Digits text)
    (goesOn : GoesOn ('.' :: 'e' :: closers) rest) :
    readDigits? (text ++ rest) = some (text, rest) := by
  have noDigit : ∀ mark ∈ '.' :: 'e' :: closers, isDigit mark = false := by
    simp [closers, isDigit, Numeral.digitValue?]
  have taken : rest.takeWhile isDigit = [] ∧ rest.dropWhile isDigit = rest := by
    cases rest with
    | nil => simp
    | cons mark rest => simp [noDigit mark (goesOn mark rfl)]
  have each := List.all_eq_true.mp digits.2
  rw [readDigits?, List.takeWhile_append_of_pos each, List.dropWhile_append_of_pos each, taken.1,
    taken.2, List.append_nil]
  cases text with
  | nil => exact absurd rfl digits.1
  | cons first text => rfl

namespace Number

/-- The sign of a literal. -/
def signText (negative : Bool) : List Char := if negative then ['-'] else []

/-- The point of a literal and the digits behind it. -/
def fractionText : Option (List Char) → List Char
  | some digits => '.' :: digits
  | none => []

/-- The power of ten of a literal with its mark. -/
def powerText : Option (Bool × List Char) → List Char
  | some (negative, digits) => 'e' :: (signText negative ++ digits)
  | none => []

theorem text_eq (number : Number) :
    number.text = signText number.negative ++ (number.whole ++
      (fractionText number.fraction ++ powerText number.power)) := by
  rcases number with ⟨negative, whole, fraction, power⟩
  rcases fraction with - | fraction <;> rcases power with - | ⟨- | -, power⟩ <;>
    simp [text, signText, fractionText, powerText]

end Number

theorem powerText_goesOn (power : Option (Bool × List Char)) {rest : List Char}
    (ends : GoesOn closers rest) : GoesOn ('e' :: closers) (Number.powerText power ++ rest) := by
  cases power with
  | none => exact ends.mono (List.subset_cons_self _ _)
  | some power => exact goesOn_cons (by simp)

theorem fractionText_goesOn (fraction : Option (List Char)) {rest : List Char}
    (goesOn : GoesOn ('e' :: closers) rest) :
    GoesOn ('.' :: 'e' :: closers) (Number.fractionText fraction ++ rest) := by
  cases fraction with
  | none => exact goesOn.mono (List.subset_cons_self _ _)
  | some fraction => exact goesOn_cons (by simp)

theorem readPower?_powerText {power : Option (Bool × List Char)} {rest : List Char}
    (digits : ∀ signed ∈ power, Digits signed.2)
    (ends : GoesOn closers rest) :
    readPower? (Number.powerText power ++ rest) = some (power, rest) := by
  cases power with
  | none =>
      cases rest with
      | nil => rfl
      | cons mark rest =>
          have other : ∀ mark ∈ closers, ¬(mark = 'e' ∨ mark = 'E') := by
            simp [closers]
          simp [Number.powerText, readPower?, other mark (ends mark rfl)]
  | some power =>
      rcases power with ⟨negative, run⟩
      have known : Digits run := digits _ rfl
      have read := readDigits?_append known (ends.mono (by simp))
      cases negative with
      | true => simp [Number.powerText, Number.signText, readPower?, read]
      | false =>
          have plus := known.append_ne '+' (by decide) rest
          have minus := known.append_ne '-' (by decide) rest
          simp [Number.powerText, Number.signText, readPower?, read]

theorem readFraction?_fractionText {fraction : Option (List Char)} {rest : List Char}
    (digits : ∀ run ∈ fraction, Digits run) (goesOn : GoesOn ('e' :: closers) rest) :
    readFraction? (Number.fractionText fraction ++ rest) = some (fraction, rest) := by
  cases fraction with
  | none =>
      cases rest with
      | nil => rfl
      | cons mark rest =>
          have other : ∀ mark ∈ 'e' :: closers, mark ≠ '.' := by simp [closers]
          simp [Number.fractionText, readFraction?, other mark (goesOn mark rfl)]
  | some run =>
      have read := readDigits?_append (digits run rfl) (goesOn.mono (List.subset_cons_self _ _))
      simp [Number.fractionText, readFraction?, read]

theorem readWhole?_append {whole rest : List Char} (digits : Digits whole)
    (zero : whole.head? = some '0' → whole = ['0']) (goesOn : GoesOn ('.' :: 'e' :: closers) rest) :
    readWhole? (whole ++ rest) = some (whole, rest) := by
  rw [readWhole?, readDigits?_append digits goesOn]
  simp only [Option.bind_eq_bind, Option.bind_some]
  split
  · simp at zero
  · rfl

theorem readNumber?_text {number : Number} {rest : List Char} (wellFormed : number.WellFormed)
    (ends : GoesOn closers rest) : readNumber? (number.text ++ rest) = some (number, rest) := by
  have afterFraction := powerText_goesOn number.power ends
  have afterWhole := fractionText_goesOn number.fraction afterFraction
  have power := readPower?_powerText wellFormed.power ends
  have fraction := readFraction?_fractionText wellFormed.fraction afterFraction
  have whole := readWhole?_append wellFormed.whole wellFormed.zero afterWhole
  rw [Number.text_eq]
  rcases number with ⟨negative, digits, fractionDigits, powerDigits⟩
  simp only [List.append_assoc] at *
  cases negative with
  | true => simp [Number.signText, readNumber?, whole, fraction, power]
  | false =>
      have minus := wellFormed.whole.append_ne '-' (by decide)
      simp [Number.signText, readNumber?, whole, fraction, power, minus]

/-! ## Strings -/

namespace Piece

/-- That an escaped unit has sixteen bits. -/
def WellFormed : Piece → Prop
  | .plain _ => True
  | .unit code => code < 0x10000

/-- The piece as its text is read. -/
def written : Piece → Piece
  | .plain character =>
    if escapeChar character = unitEscape character.toNat then .unit character.toNat
    else .plain character
  | .unit code => .unit code

end Piece

/-- How a character may stand in a string, and the piece that is read there. -/
inductive Spelling (character : Char) : List Char → Piece → Prop where
  | letter {letter : Char} (means : simpleEscape? letter = some character) :
      Spelling character ['\\', letter] (.plain character)
  | unit (control : character.toNat < 0x20) :
      Spelling character (unitEscape character.toNat) (.unit character.toNat)
  | itself (printed : 0x20 ≤ character.toNat) (quote : character ≠ '"')
      (backslash : character ≠ '\\') :
      Spelling character [character] (.plain character)

theorem escapeChar_spelling (character : Char) :
    Spelling character (escapeChar character) (Piece.written (.plain character)) := by
  rw [Piece.written]
  by_cases short : character ∈ ['"', '\\', '\x08', '\t', '\n', '\x0c', '\r']
  · have letters : ∀ character ∈ ['"', '\\', '\x08', '\t', '\n', '\x0c', '\r'],
        ∃ letter,
          escapeChar character = ['\\', letter] ∧ simpleEscape? letter = some character := by
      simp [escapeChar, simpleEscape?]
    rcases letters character short with ⟨letter, escaped, means⟩
    have other : ['\\', letter] ≠ unitEscape character.toNat := by
      intro same
      cases (List.cons.inj (List.cons.inj same).2).1
      cases means
    rw [escaped, if_neg other]
    exact .letter means
  · have escaped : escapeChar character =
        if character.toNat < 0x20 then unitEscape character.toNat else [character] := by
      simp only [List.mem_cons, List.not_mem_nil, or_false, not_or] at short
      simp [escapeChar, short]
    by_cases control : character.toNat < 0x20
    · rw [escaped, if_pos control, if_pos rfl]
      exact .unit control
    · rw [escaped, if_neg control, if_neg (by simp [unitEscape])]
      simp only [List.mem_cons, not_or] at short
      exact .itself (Nat.le_of_not_lt control) short.1 short.2.1

theorem readPieces?_unit (first second third fourth : Char) (rest : List Char) :
    readPieces? ('\\' :: 'u' :: first :: second :: third :: fourth :: rest) =
      (Numeral.readDigits? 16 [first, second, third, fourth]).bind fun code =>
        (readPieces? rest).bind fun (pieces, rest) => some (.unit code :: pieces, rest) := rfl

theorem readPieces?_unitEscape {code : Nat} (fits : code < 0x10000) (rest : List Char) :
    readPieces? (unitEscape code ++ rest) =
      (readPieces? rest).map fun (pieces, rest) => (.unit code :: pieces, rest) := by
  have length : (Numeral.writePadded 16 4 code).length = 4 :=
    Numeral.writePadded_length (by omega) (by omega) fits
  have value : Numeral.accumulate 16 0 (Numeral.writePadded 16 4 code) = some code :=
    Numeral.accumulate_writePadded (by omega) (by omega) 4 code
  rw [unitEscape]
  generalize Numeral.writePadded 16 4 code = digits at length value
  match digits, length with
  | [first, second, third, fourth], _ =>
      simp only [List.cons_append, List.nil_append, readPieces?_unit, Numeral.readDigits?, value]
      cases readPieces? rest <;> rfl

theorem Spelling.reads {character : Char} {text : List Char} {piece : Piece}
    (spelling : Spelling character text piece) (rest : List Char) :
    readPieces? (text ++ rest) =
      (readPieces? rest).map fun (pieces, rest) => (piece :: pieces, rest) := by
  cases spelling with
  | @letter letter means =>
      have other : letter ≠ 'u' := by
        rintro rfl
        cases means
      cases read : readPieces? rest <;> simp [readPieces?, other, means, read]
  | unit control => exact readPieces?_unitEscape (by omega) rest
  | itself printed quote backslash =>
      cases read : readPieces? rest <;>
        simp [readPieces?, backslash, Nat.not_lt.mpr printed, read]

theorem readPieces?_text {piece : Piece} (wellFormed : piece.WellFormed) (rest : List Char) :
    readPieces? (piece.text ++ rest) =
      (readPieces? rest).map fun (pieces, rest) => (piece.written :: pieces, rest) := by
  cases piece with
  | plain character => exact (escapeChar_spelling character).reads rest
  | unit code => exact readPieces?_unitEscape wellFormed rest

theorem readPieces?_quoted {pieces : List Piece} (wellFormed : ∀ piece ∈ pieces, piece.WellFormed)
    (rest : List Char) :
    readPieces? (pieces.flatMap Piece.text ++ '"' :: rest) =
      some (pieces.map Piece.written, rest) := by
  induction pieces with
  | nil => rfl
  | cons piece pieces ih =>
      rw [List.forall_mem_cons] at wellFormed
      rw [List.flatMap_cons, List.append_assoc, readPieces?_text wellFormed.1, ih wellFormed.2]
      rfl

/-- The pieces that are read for a text. -/
def textPieces (text : String) : List Piece := (text.toList.map .plain).map Piece.written

theorem Piece.characters?_unit {code : Nat} (control : code < 0x20) (rest : List Piece) :
    characters? (.unit code :: rest) = (characters? rest).map (Char.ofNat code :: ·) := by
  have high : isHighSurrogate code = false := decide_eq_false (by omega)
  have low : isLowSurrogate code = false := decide_eq_false (by omega)
  rcases rest with - | ⟨- | -, rest⟩ <;> simp [characters?, high, low]

theorem Piece.characters?_plain (character : Char) (rest : List Piece) :
    characters? (.plain character :: rest) = (characters? rest).map (character :: ·) := rfl

theorem Spelling.denotes {character : Char} {text : List Char} {piece : Piece}
    (spelling : Spelling character text piece) (rest : List Piece) :
    Piece.characters? (piece :: rest) = (Piece.characters? rest).map (character :: ·) := by
  cases spelling with
  | letter means => rw [Piece.characters?_plain]
  | unit control => rw [Piece.characters?_unit control, Char.ofNat_toNat]
  | itself printed quote backslash => rw [Piece.characters?_plain]

theorem characters?_textPieces (text : String) :
    Piece.characters? (textPieces text) = some text.toList := by
  unfold textPieces
  induction text.toList with
  | nil => rfl
  | cons character rest ih =>
      rw [List.map_cons, List.map_cons, (escapeChar_spelling character).denotes, ih]
      rfl

/-! ## Values -/

namespace Value

/--
That the numbers in a value follow the grammar and its escaped units have sixteen bits. These are
the values that a text can spell.
-/
inductive WellFormed : Value → Prop where
  | null : WellFormed .null
  | boolean (truth : Bool) : WellFormed (.boolean truth)
  | number {literal : Number} (wellFormed : literal.WellFormed) : WellFormed (.number literal)
  | string {pieces : List Piece} (units : ∀ piece ∈ pieces, piece.WellFormed) :
      WellFormed (.string pieces)
  | array {items : List Value} (each : ∀ item ∈ items, WellFormed item) : WellFormed (.array items)
  | object {members : List (List Piece × Value)}
      (keys : ∀ member ∈ members, ∀ piece ∈ member.1, piece.WellFormed)
      (each : ∀ member ∈ members, WellFormed member.2) : WellFormed (.object members)

mutual

/-- The value as its text is read. -/
def written : Value → Value
  | .string pieces => .string (pieces.map Piece.written)
  | .array items => .array (writtenItems items)
  | .object members => .object (writtenMembers members)
  | .null => .null
  | .boolean truth => .boolean truth
  | .number literal => .number literal

/-- The items as their texts are read. -/
def writtenItems : List Value → List Value
  | [] => []
  | item :: rest => written item :: writtenItems rest

/-- The members as their texts are read. -/
def writtenMembers : List (List Piece × Value) → List (List Piece × Value)
  | [] => []
  | (key, value) :: rest => (key.map Piece.written, written value) :: writtenMembers rest

end

@[simp]
theorem written_null : null.written = null := rfl

@[simp]
theorem written_boolean (truth : Bool) : (boolean truth).written = boolean truth := rfl

@[simp]
theorem written_number (literal : Number) : (number literal).written = number literal := rfl

@[simp]
theorem written_string (pieces : List Piece) :
    (string pieces).written = string (pieces.map Piece.written) := rfl

@[simp]
theorem written_array (items : List Value) :
    (array items).written = array (writtenItems items) := rfl

@[simp]
theorem written_object (members : List (List Piece × Value)) :
    (object members).written = object (writtenMembers members) := rfl

@[simp]
theorem writtenItems_nil : writtenItems [] = [] := rfl

@[simp]
theorem writtenItems_cons (item : Value) (items : List Value) :
    writtenItems (item :: items) = item.written :: writtenItems items := rfl

@[simp]
theorem writtenMembers_nil : writtenMembers [] = [] := rfl

@[simp]
theorem writtenMembers_cons (key : List Piece) (value : Value)
    (members : List (List Piece × Value)) :
    writtenMembers ((key, value) :: members) =
      (key.map Piece.written, value.written) :: writtenMembers members := rfl

/--
That a value is read back from its text, whatever mark follows. Its text begins with a character
that is no blank and does not end an array.
-/
structure ReadsBack (value : Value) : Prop where
  opens : ∃ first tail, value.compact = first :: tail ∧ isBlank first = false ∧ first ≠ ']'
  reads : ∀ {fuel : Nat} {rest : List Char}, value.compact.length ≤ fuel → GoesOn closers rest →
    readValue? fuel (value.compact ++ rest) = some (value.written, rest)

end Value

theorem skipBlanks_cons {first : Char} {rest : List Char} (mark : isBlank first = false) :
    skipBlanks (first :: rest) = first :: rest := by
  simp [skipBlanks, mark]

theorem skipBlanks_compact {value : Value} (back : value.ReadsBack) (rest : List Char) :
    skipBlanks (value.compact ++ rest) = value.compact ++ rest := by
  rcases back.opens with ⟨first, tail, text, mark, -⟩
  rw [text, List.cons_append, skipBlanks_cons mark]

theorem compactItems_nil : Value.compactItems [] = [] := rfl

theorem compactItems_singleton (item : Value) : Value.compactItems [item] = item.compact := rfl

theorem compactItems_cons_cons (item next : Value) (items : List Value) :
    Value.compactItems (item :: next :: items) =
      item.compact ++ ',' :: Value.compactItems (next :: items) := rfl

theorem compactItems_opens (item : Value) (items : List Value) :
    ∃ tail, Value.compactItems (item :: items) = item.compact ++ tail := by
  cases items with
  | nil => exact ⟨[], by rw [compactItems_singleton, List.append_nil]⟩
  | cons next items => exact ⟨_, compactItems_cons_cons item next items⟩

theorem skipBlanks_compactItems {item : Value} (back : item.ReadsBack) (items : List Value)
    (rest : List Char) :
    skipBlanks (Value.compactItems (item :: items) ++ rest) =
      Value.compactItems (item :: items) ++ rest := by
  rcases compactItems_opens item items with ⟨tail, text⟩
  rw [text, List.append_assoc, skipBlanks_compact back]

theorem readItems?_compactItems {items : List Value} (nonempty : items ≠ [])
    (back : ∀ item ∈ items, item.ReadsBack) {fuel : Nat}
    (enough : (Value.compactItems items).length < fuel) (rest : List Char) :
    readItems? fuel (Value.compactItems items ++ ']' :: rest) =
      some (Value.writtenItems items, rest) := by
  induction items generalizing fuel with
  | nil => exact absurd rfl nonempty
  | cons item items ih =>
      rw [List.forall_mem_cons] at back
      obtain ⟨fuel, rfl⟩ := Nat.exists_eq_succ_of_ne_zero (Nat.ne_zero_of_lt enough)
      cases items with
      | nil =>
          rw [compactItems_singleton] at enough ⊢
          have ends : GoesOn closers (']' :: rest) := goesOn_cons (by decide)
          have read := back.1.reads (Nat.le_of_lt_succ enough) ends
          simp [readItems?, read, skipBlanks_cons, isBlank]
      | cons next items =>
          rw [compactItems_cons_cons] at enough ⊢
          rw [List.length_append, List.length_cons] at enough
          rw [List.append_assoc, List.cons_append]
          have ends : GoesOn closers (',' :: (Value.compactItems (next :: items) ++ ']' :: rest)) :=
            goesOn_cons (by decide)
          have first := back.1.reads (by omega : item.compact.length ≤ fuel) ends
          have others := ih (by simp) back.2 (by omega : _ < fuel)
          have blanks :=
            skipBlanks_compactItems (back.2 next List.mem_cons_self) items (']' :: rest)
          have comma : isBlank ',' = false := by decide
          simp [readItems?, first, skipBlanks_cons comma, blanks, others]

theorem compactMembers_nil : Value.compactMembers [] = [] := rfl

theorem compactMembers_singleton (key : List Piece) (value : Value) :
    Value.compactMembers [(key, value)] = quoted key ++ ':' :: value.compact := rfl

theorem compactMembers_cons_cons (key : List Piece) (value : Value) (next : List Piece × Value)
    (members : List (List Piece × Value)) :
    Value.compactMembers ((key, value) :: next :: members) =
      quoted key ++ ':' :: (value.compact ++ ',' :: Value.compactMembers (next :: members)) :=
  List.append_assoc (quoted key) (':' :: value.compact) _

theorem compactMembers_opens (member : List Piece × Value) (members : List (List Piece × Value)) :
    ∃ tail, Value.compactMembers (member :: members) = '"' :: tail := by
  rcases member with ⟨key, value⟩
  cases members with
  | nil => exact ⟨_, by rw [compactMembers_singleton, quoted, List.cons_append]⟩
  | cons next members => exact ⟨_, by rw [compactMembers_cons_cons, quoted, List.cons_append]⟩

theorem skipBlanks_compactMembers (member : List Piece × Value)
    (members : List (List Piece × Value)) (rest : List Char) :
    skipBlanks (Value.compactMembers (member :: members) ++ rest) =
      Value.compactMembers (member :: members) ++ rest := by
  rcases compactMembers_opens member members with ⟨tail, text⟩
  rw [text, List.cons_append, skipBlanks_cons (by decide)]

theorem readMembers?_compactMembers {members : List (List Piece × Value)} (nonempty : members ≠ [])
    (keys : ∀ member ∈ members, ∀ piece ∈ member.1, piece.WellFormed)
    (back : ∀ member ∈ members, member.2.ReadsBack) {fuel : Nat}
    (enough : (Value.compactMembers members).length < fuel) (rest : List Char) :
    readMembers? fuel (Value.compactMembers members ++ '}' :: rest) =
      some (Value.writtenMembers members, rest) := by
  induction members generalizing fuel with
  | nil => exact absurd rfl nonempty
  | cons member members ih =>
      rcases member with ⟨key, value⟩
      rw [List.forall_mem_cons] at keys back
      obtain ⟨fuel, rfl⟩ := Nat.exists_eq_succ_of_ne_zero (Nat.ne_zero_of_lt enough)
      have readKey := readPieces?_quoted keys.1
      have colon : isBlank ':' = false := by decide
      have blanks := skipBlanks_compact back.1
      cases members with
      | nil =>
          rw [compactMembers_singleton] at enough ⊢
          simp only [List.length_append, List.length_cons] at enough
          have ends : GoesOn closers ('}' :: rest) := goesOn_cons (by decide)
          have read := back.1.reads (by omega : value.compact.length ≤ fuel) ends
          simp [readMembers?, quoted, expect?, readKey, skipBlanks_cons colon, blanks, read,
            skipBlanks_cons, isBlank]
      | cons next members =>
          rw [compactMembers_cons_cons] at enough ⊢
          simp only [List.length_append, List.length_cons] at enough
          have ends :
              GoesOn closers (',' :: (Value.compactMembers (next :: members) ++ '}' :: rest)) :=
            goesOn_cons (by decide)
          have first := back.1.reads (by omega : value.compact.length ≤ fuel) ends
          have others := ih (by simp) keys.2 back.2 (by omega : _ < fuel)
          have more := skipBlanks_compactMembers next members ('}' :: rest)
          have comma : isBlank ',' = false := by decide
          simp [readMembers?, quoted, expect?, readKey, skipBlanks_cons colon, blanks, first,
            skipBlanks_cons comma, more, others]

/-- A number begins as no other value does, and not with a blank or an end. -/
theorem ne_of_numeric {first : Char} (numeric : first = '-' ∨ isDigit first = true) :
    ∀ mark ∈ ['"', '[', '{', 'n', 't', 'f', ' ', '\t', '\n', '\r', ']'], first ≠ mark := by
  have marks : ∀ mark ∈ ['"', '[', '{', 'n', 't', 'f', ' ', '\t', '\n', '\r', ']'],
      ¬(mark = '-' ∨ isDigit mark = true) := by
    simp [isDigit, Numeral.digitValue?]
  rintro mark known rfl
  exact marks _ known numeric

theorem readValue?_number {fuel : Nat} {first : Char} (numeric : first = '-' ∨ isDigit first = true)
    (rest : List Char) :
    readValue? (fuel + 1) (first :: rest) =
      (readNumber? (first :: rest)).map fun (literal, rest) => (.number literal, rest) := by
  have other := ne_of_numeric numeric
  simp only [List.forall_mem_cons] at other
  simp [readValue?, other]

theorem Number.WellFormed.text_opens {number : Number} (wellFormed : number.WellFormed) :
    ∃ first tail, number.text = first :: tail ∧ (first = '-' ∨ isDigit first = true) := by
  rw [Number.text_eq]
  rcases number with ⟨negative, whole, fraction, power⟩
  rcases wellFormed.whole with ⟨nonempty, digits⟩
  cases whole with
  | nil => exact absurd rfl nonempty
  | cons first whole =>
      cases negative with
      | true => exact ⟨'-', _, rfl, .inl rfl⟩
      | false => exact ⟨first, _, rfl, .inr (List.all_eq_true.mp digits first List.mem_cons_self)⟩

namespace Value

/-- The first character decides what is read, and it pays for this step. -/
theorem readsBack_of_cons {value : Value} {first : Char} {tail : List Char}
    (text : value.compact = first :: tail) (mark : isBlank first = false) (other : first ≠ ']')
    (reads : ∀ fuel rest, tail.length ≤ fuel → GoesOn closers rest →
      readValue? (fuel + 1) (first :: (tail ++ rest)) = some (value.written, rest)) :
    value.ReadsBack where
  opens := ⟨first, tail, text, mark, other⟩
  reads := by
    intro fuel rest enough ends
    rw [text] at enough ⊢
    cases fuel with
    | zero => cases enough
    | succ fuel => exact reads fuel rest (Nat.le_of_succ_le_succ enough) ends

theorem null_readsBack : Value.null.ReadsBack := by
  have text : Value.null.compact = ['n', 'u', 'l', 'l'] := rfl
  refine readsBack_of_cons text (by decide) (by decide) fun fuel rest enough ends => ?_
  simp [readValue?, expect?]

theorem boolean_readsBack (truth : Bool) : (Value.boolean truth).ReadsBack := by
  cases truth with
  | true =>
      have text : (Value.boolean true).compact = ['t', 'r', 'u', 'e'] := rfl
      refine readsBack_of_cons text (by decide) (by decide) fun fuel rest enough ends => ?_
      simp [readValue?, expect?]
  | false =>
      have text : (Value.boolean false).compact = ['f', 'a', 'l', 's', 'e'] := rfl
      refine readsBack_of_cons text (by decide) (by decide) fun fuel rest enough ends => ?_
      simp [readValue?, expect?]

theorem number_readsBack {literal : Number} (wellFormed : literal.WellFormed) :
    (Value.number literal).ReadsBack := by
  rcases wellFormed.text_opens with ⟨first, tail, text, numeric⟩
  have other := ne_of_numeric numeric
  simp only [List.forall_mem_cons] at other
  refine readsBack_of_cons text (by simp [isBlank, other]) (by simp [other]) ?_
  intro fuel rest enough ends
  rw [readValue?_number numeric, ← List.cons_append, ← text, readNumber?_text wellFormed ends]
  rfl

theorem array_readsBack {items : List Value} (back : ∀ item ∈ items, item.ReadsBack) :
    (Value.array items).ReadsBack := by
  refine readsBack_of_cons rfl (by decide) (by decide) ?_
  intro fuel rest enough ends
  cases items with
  | nil => simp [readValue?, compactItems_nil, skipBlanks_cons, isBlank]
  | cons item items =>
      have first := back item List.mem_cons_self
      have within : (compactItems (item :: items)).length < fuel := by
        simpa [Nat.succ_le_iff] using enough
      have read := readItems?_compactItems (by simp) back within rest
      rcases first.opens with ⟨mark, tail, text, -, other⟩
      -- the reader looks for the end of an empty array first
      have closed : ∀ tail, compactItems (item :: items) ++ ']' :: rest ≠ ']' :: tail := by
        rcases compactItems_opens item items with ⟨more, start⟩
        simp [start, text, other]
      simp [readValue?, skipBlanks_compactItems first, read]

theorem object_readsBack {members : List (List Piece × Value)}
    (keys : ∀ member ∈ members, ∀ piece ∈ member.1, piece.WellFormed)
    (back : ∀ member ∈ members, member.2.ReadsBack) : (Value.object members).ReadsBack := by
  refine readsBack_of_cons rfl (by decide) (by decide) ?_
  intro fuel rest enough ends
  cases members with
  | nil => simp [readValue?, compactMembers_nil, skipBlanks_cons, isBlank]
  | cons member members =>
      have within : (compactMembers (member :: members)).length < fuel := by
        simpa [Nat.succ_le_iff] using enough
      have read := readMembers?_compactMembers (by simp) keys back within rest
      have closed : ∀ tail, compactMembers (member :: members) ++ '}' :: rest ≠ '}' :: tail := by
        rcases compactMembers_opens member members with ⟨more, start⟩
        simp [start]
      simp [readValue?, skipBlanks_compactMembers, read]

theorem WellFormed.readsBack {value : Value} (wellFormed : value.WellFormed) : value.ReadsBack := by
  induction wellFormed with
  | null => exact null_readsBack
  | boolean truth => exact boolean_readsBack truth
  | number wellFormed => exact number_readsBack wellFormed
  | string units =>
      refine readsBack_of_cons rfl (by decide) (by decide) ?_
      intro fuel rest enough ends
      simp [readValue?, readPieces?_quoted units]
  | array each back => exact array_readsBack back
  | object keys each back => exact object_readsBack keys back

/-- The text of a value is read as that value, up to the spelling of its strings. -/
theorem WellFormed.parse?_toText {value : Value} (wellFormed : value.WellFormed) :
    parse? value.toText = some value.written := by
  have back := wellFormed.readsBack
  have read := back.reads (by omega : value.compact.length ≤ 2 * value.compact.length + 1)
    (goesOn_nil closers)
  have blanks := skipBlanks_compact back []
  have ended : skipBlanks [] = [] := rfl
  rw [List.append_nil] at read blanks
  simp [parse?, toText, blanks, read, ended]

/-! ### Texts and named members -/

theorem ofString_wellFormed (text : String) : (ofString text).WellFormed := by
  refine .string ?_
  simp only [List.forall_mem_map]
  exact fun character member => trivial

theorem ofMembers_wellFormed {members : List (String × Value)}
    (each : ∀ member ∈ members, member.2.WellFormed) : (ofMembers members).WellFormed := by
  refine .object ?_ ?_
  · simp only [List.forall_mem_map]
    exact fun member known character inKey => trivial
  · simpa only [List.forall_mem_map] using each

theorem ofMembers_injective : Function.Injective ofMembers := by
  intro left right same
  refine List.map_injective_iff.mpr ?_ (object.inj same)
  rintro ⟨key, value⟩ ⟨other, _⟩ same
  rcases Prod.mk.inj same with ⟨pieces, rfl⟩
  have characters := List.map_injective_iff.mpr (fun _ _ => Piece.plain.inj) pieces
  rw [String.toList_injective characters]

theorem writtenMembers_eq_map (members : List (List Piece × Value)) :
    writtenMembers members =
      members.map fun (key, value) => (key.map Piece.written, value.written) := by
  induction members with
  | nil => rfl
  | cons member members ih => rw [writtenMembers_cons, ih, List.map_cons]

/-- The members that are read where members with these keys were written. -/
theorem written_ofMembers (members : List (String × Value)) :
    (ofMembers members).written =
      .object (members.map fun (key, value) => (textPieces key, value.written)) := by
  rw [ofMembers, written_object, writtenMembers_eq_map, List.map_map]
  rfl

end Value

end Json

end CdcSerial
