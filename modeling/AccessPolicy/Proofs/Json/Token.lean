import AccessPolicy.Json.Token
import AccessPolicy.Proofs.Text.Decimal
import AccessPolicy.Proofs.Text.Hex
import Mathlib.Tactic.SplitIfs

/-!
# Reading written tokens back

The spelling of a token is read as this token, whatever follows it.  A text may
hold any characters: those that could end it or are not allowed in it are
escaped, and each escape is read as the character that it stands for.  Only a
numeral has no end of its own, so what follows it must not look like more of it.
-/

namespace AccessPolicy.Json

/-- Some characters are read as one piece of a text, whatever follows them, and
this piece stands for a character. -/
structure Spells (written : List Char) (piece : Piece) (c : Char) : Prop where
  pieces : ∀ text, pieces (written ++ text) =
    (pieces text).map fun read => (piece :: read.1, read.2)
  resolve : ∀ found, resolve (piece :: found) = (resolve found).map (c :: ·)

/-- A unit outside the surrogates stands for a character alone. -/
theorem resolve_unit {value : Nat} (hvalue : value < 0xd800)
    (found : List Piece) :
    resolve (.unit value :: found) =
      (resolve found).map (Char.ofNat value :: ·) := by
  have hlow : ¬0xd800 ≤ value := Nat.not_le.2 hvalue
  cases found with
  | nil => simp [resolve, hlow]
  | cons piece rest =>
      cases piece with
      | char c => simp [resolve, hlow]
      | unit low => simp [resolve, hlow]

theorem spells_letter {letter c : Char} (hletter : escaped? letter = some c)
    (hunit : letter ≠ 'u') : Spells ['\\', letter] (.char c) c where
  pieces text := by
    have hnone : ∀ (first second third fourth : Char) (rest : List Char),
        letter = 'u' →
        text = first :: second :: third :: fourth :: rest → False :=
      fun _ _ _ _ _ heq => absurd heq hunit
    show pieces ('\\' :: letter :: text) = _
    rw [pieces.eq_4 _ _ hnone, hletter]
    cases pieces text <;> rfl
  resolve _ := rfl

theorem spells_hexDigits {c : Char} (hc : c.toNat < 0xd800) :
    Spells ('\\' :: 'u' :: Text.hexDigits 4 c.toNat) (.unit c.toNat) c where
  pieces text := by
    obtain ⟨first, second, third, fourth, hdigits⟩ :
        ∃ first second third fourth,
          Text.hexDigits 4 c.toNat = [first, second, third, fourth] :=
      ⟨_, _, _, _, rfl⟩
    have hread : Text.readHex? [first, second, third, fourth] =
        some c.toNat := by
      rw [← hdigits, Text.readHex?_hexDigits, Nat.mod_eq_of_lt (by omega)]
    rw [hdigits]
    show pieces ('\\' :: 'u' :: first :: second :: third :: fourth :: text) = _
    rw [pieces, hread]
    cases pieces text <;> rfl
  resolve found := by rw [resolve_unit hc, Char.ofNat_toNat]

theorem spells_itself {c : Char} (hquote : c ≠ '"') (hslash : c ≠ '\\')
    (hcontrol : ¬c.toNat < 0x20) : Spells [c] (.char c) c where
  pieces text := by
    show pieces (c :: text) = _
    rw [pieces.eq_5 _ _ hquote (fun _ _ _ _ _ heq => absurd heq hslash)
      (fun _ _ heq => absurd heq hslash)]
    simp only [hcontrol, hslash, decide_false, Bool.or_self,
      Bool.false_eq_true, if_false]
    cases pieces text <;> rfl
  resolve _ := rfl

/-- Every character is written as one piece that stands for it. -/
theorem spells_escapeChar (c : Char) :
    ∃ piece, Spells (escapeChar c) piece c := by
  rw [escapeChar]
  split_ifs with hquote hslash hback hfeed hnewline hreturn htab hcontrol
  · subst hquote; exact ⟨.char '"', spells_letter rfl (by decide)⟩
  · subst hslash; exact ⟨.char '\\', spells_letter rfl (by decide)⟩
  · subst hback; exact ⟨.char '\x08', spells_letter rfl (by decide)⟩
  · subst hfeed; exact ⟨.char '\x0c', spells_letter rfl (by decide)⟩
  · subst hnewline; exact ⟨.char '\n', spells_letter rfl (by decide)⟩
  · subst hreturn; exact ⟨.char '\r', spells_letter rfl (by decide)⟩
  · subst htab; exact ⟨.char '\t', spells_letter rfl (by decide)⟩
  · exact ⟨.unit c.toNat, spells_hexDigits (by omega)⟩
  · exact ⟨.char c, spells_itself hquote hslash hcontrol⟩

/-- Behind its opening quote, a written text is read up to its closing quote. -/
theorem pieces_written (value rest : List Char) :
    ∃ found, pieces (value.flatMap escapeChar ++ '"' :: rest) =
      some (found, rest) ∧
      resolve found = some value := by
  induction value with
  | nil => exact ⟨[], rfl, rfl⟩
  | cons c value ih =>
      obtain ⟨found, hpieces, hresolve⟩ := ih
      obtain ⟨piece, hspells⟩ := spells_escapeChar c
      refine ⟨piece :: found, ?_, ?_⟩
      · rw [List.flatMap_cons, List.append_assoc, hspells.pieces, hpieces]
        rfl
      · rw [hspells.resolve, hresolve]
        rfl

theorem tokens_text (value : String) (rest : List Char) :
    tokens (Token.spell (.text (some value)) ++ rest) =
      (tokens rest).map (.text (some value) :: ·) := by
  obtain ⟨found, hpieces, hresolve⟩ := pieces_written value.toList rest
  have hspell : Token.spell (.text (some value)) ++ rest =
      '"' :: (value.toList.flatMap escapeChar ++ '"' :: rest) := by
    simp [Token.spell]
  rw [hspell, tokens]
  split
  · next hnone => rw [hpieces] at hnone; cases hnone
  · next later hsome =>
      rw [hpieces] at hsome
      cases hsome
      rw [hresolve, Option.map_some, String.ofList_toList]

def EndsNumeral (text : List Char) : Prop :=
  ∀ c ∈ text.head?, isNumeralChar c = false

theorem isNumeralChar_of_isDigit {c : Char} (hdigit : c.isDigit = true) :
    isNumeralChar c = true := by
  simp [isNumeralChar, hdigit]

/-- A run of numeral characters is read as one numeral. -/
theorem tokens_numeral {c : Char} {numeral rest : List Char}
    (hnumeral : ∀ d ∈ c :: numeral, isNumeralChar d = true)
    (hrest : EndsNumeral rest) :
    tokens (c :: numeral ++ rest) =
      (numeral? (c :: numeral)).bind fun value =>
        (tokens rest).map (.leaf value :: ·) := by
  have hc : isNumeralChar c = true := hnumeral c List.mem_cons_self
  have hne : ∀ d, isNumeralChar d = false → c = d → False := by
    rintro d hd rfl
    rw [hd] at hc
    cases hc
  have hblank : isBlank c = false := by
    simp only [isBlank, Bool.or_eq_false_iff, decide_eq_false_iff_not]
    exact ⟨⟨⟨hne _ rfl, hne _ rfl⟩, hne _ rfl⟩, hne _ rfl⟩
  have hall : ∀ d ∈ numeral, isNumeralChar d = true :=
    fun d hd => hnumeral d (List.mem_cons_of_mem c hd)
  rw [List.cons_append,
    tokens.eq_12 c _ (hne _ rfl) (hne _ rfl) (hne _ rfl) (hne _ rfl)
      (hne _ rfl) (hne _ rfl) (fun _ heq _ => hne _ rfl heq)
      (fun _ heq _ => hne _ rfl heq) (fun _ heq _ => hne _ rfl heq)
      (hne _ rfl),
    Text.takeWhile_run hall hrest, Text.dropWhile_run hall hrest]
  simp only [hblank, hc, Bool.false_eq_true, if_false, if_true]
  cases numeral? (c :: numeral) <;> rfl

theorem isNumeralChar_spellInteger {value : Int} :
    ∀ c ∈ spellInteger value, isNumeralChar c = true := by
  cases value with
  | ofNat value =>
      intro c hc
      exact isNumeralChar_of_isDigit (Text.isDigit_of_mem_digits hc)
  | negSucc value =>
      intro c hc
      rcases List.mem_cons.1 hc with rfl | hc
      · rfl
      · exact isNumeralChar_of_isDigit (Text.isDigit_of_mem_digits hc)

theorem isIntegerPart_toDigits (value : Nat) :
    isIntegerPart (Nat.toDigits 10 value) = true := by
  generalize hdigits : Nat.toDigits 10 value = digits
  unfold isIntegerPart
  split
  case h_1 => exact absurd hdigits Nat.toDigits_ne_nil
  case h_2 => rfl
  case h_3 later hone => exact absurd (Text.eq_nil_of_toDigits hdigits) hone
  case h_4 => rfl

/-- The digits of a number are read as the number. -/
theorem unsignedNumeral_toDigits {negative : Bool} {value : Nat}
    (hvalue : negative = true → value ≠ 0) :
    unsignedNumeral negative (Nat.toDigits 10 value) =
      some (.integer (if negative then -value else value)) := by
  have hdigits : ∀ c ∈ Nat.toDigits 10 value, c.isDigit = true :=
    fun c hc => Text.isDigit_of_mem_digits hc
  have hspan : spanDigits (Nat.toDigits 10 value) =
      (Nat.toDigits 10 value, []) := by
    rw [spanDigits, List.takeWhile_eq_self_iff.2 hdigits,
      List.dropWhile_eq_nil_iff.2 hdigits]
  have hfraction : isFraction [] = true := rfl
  have hzero : (negative && decide (value = 0)) = false := by
    cases negative with
    | false => rfl
    | true => exact decide_eq_false (hvalue rfl)
  simp only [unsignedNumeral, hspan, isIntegerPart_toDigits, hfraction,
    Bool.and_self, if_true, Nat.ofDigitChars_ten_toDigits, List.isEmpty_nil,
    Bool.not_true, Bool.false_or, hzero,
    Bool.false_eq_true, if_false]

theorem numeral?_spellInteger (value : Int) :
    numeral? (spellInteger value) = some (.integer value) := by
  cases value with
  | ofNat value =>
      have hsign : ∀ unsigned,
          Nat.toDigits 10 value = '-' :: unsigned → False := by
        intro unsigned heq
        have hminus : Char.isDigit '-' = true :=
          Text.isDigit_of_mem_digits (heq ▸ List.mem_cons_self)
        cases hminus
      rw [spellInteger, numeral?.eq_2 _ hsign,
        unsignedNumeral_toDigits (by simp)]
      rfl
  | negSucc value =>
      rw [spellInteger, numeral?, unsignedNumeral_toDigits (by simp)]
      rfl

/-- The spellings of these tokens, one behind the other, are read as
these tokens. -/
def ReadBack (written : List Token) : Prop :=
  ∀ rest, EndsNumeral rest →
    tokens (written.flatMap Token.spell ++ rest) =
      (tokens rest).map (written ++ ·)

/-- The tokens of one character, which stand between values. -/
def Token.isDelimiter : Token → Bool
  | text _ | leaf _ => false
  | _ => true

/-- A delimiter ends a numeral in front of it and is read whatever follows. -/
theorem tokens_delimiter {token : Token} (htoken : token.isDelimiter = true)
    (rest : List Char) :
    EndsNumeral (token.spell ++ rest) ∧
      tokens (token.spell ++ rest) = (tokens rest).map (token :: ·) := by
  cases token with
  | text value => cases htoken
  | leaf value => cases htoken
  | _ => exact ⟨by rintro c ⟨⟩; decide, by simp [Token.spell, tokens]⟩

theorem readBack_nil : ReadBack [] := by
  intro rest _
  simp

theorem readBack_text (value : String) : ReadBack [.text (some value)] := by
  intro rest _
  simpa using tokens_text value rest

theorem readBack_null : ReadBack [.leaf .null] := by
  intro rest _
  simp [Token.spell, tokens]

theorem readBack_boolean (value : Bool) :
    ReadBack [.leaf (.boolean value)] := by
  intro rest _
  cases value <;> simp [Token.spell, tokens]

theorem readBack_integer (value : Int) : ReadBack [.leaf (.integer value)] := by
  intro rest hrest
  have hnumeral : ∀ c ∈ spellInteger value, isNumeralChar c = true :=
    isNumeralChar_spellInteger
  have hvalue := numeral?_spellInteger value
  rw [List.flatMap_singleton, Token.spell]
  cases hspell : spellInteger value with
  | nil => rw [hspell] at hvalue; cases hvalue
  | cons c numeral =>
      rw [hspell] at hnumeral hvalue
      rw [tokens_numeral hnumeral hrest, hvalue]
      rfl

/-- Two sequences are read with a delimiter between them. -/
theorem ReadBack.delimited {first second : List Token} {delimiter : Token}
    (hfirst : ReadBack first) (hdelimiter : delimiter.isDelimiter = true)
    (hsecond : ReadBack second) : ReadBack (first ++ delimiter :: second) := by
  intro rest hrest
  obtain ⟨hends, hread⟩ :=
    tokens_delimiter hdelimiter (second.flatMap Token.spell ++ rest)
  rw [List.flatMap_append, List.flatMap_cons, List.append_assoc,
    List.append_assoc, hfirst _ hends, hread, hsecond rest hrest]
  simp [Function.comp_def]

end AccessPolicy.Json
