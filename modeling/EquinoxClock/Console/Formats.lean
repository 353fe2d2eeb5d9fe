/-
What `xprintf` prints for a number, and where `xitoa` stores the digits for it.

`xprintfTraced` is `xprintf` with the arrays that its calls of `xitoa` leave behind. The width of a
conversion is read by `w += w * 10 + (d - '0')`, which takes every digit but the last eleven times,
and the array has no place for a binary numeral of more than twenty digits: `prints_iff` says for
which widths and numbers the text comes out as asked for and the array holds it.
-/

import EquinoxClock.Console.TermIo

namespace EquinoxClock.Console

open EquinoxClock.Lib

/-! ### The loop of `xprintf`, with the arrays of `xitoa` -/

/-- What follows a `%`, up to the letter: the width, negative if zeros are asked for, and the format
from the letter on. -/
def readSpec (str : List UInt8) : Int × List UInt8 :=
  let (s, str) := skipChar 48 str
  let (w, str) := readWidth 0 str
  (if s then -w else w, (skipChar 0x6C str).2)

/-- `convert`, with the array of its call of `xitoa`. -/
def convertTraced (d : UInt8) (w : Int) (arg : Arg) :
    Option (List UInt8 × List (Traced Nat UInt8)) :=
  if d = 0x73 then some (xputs arg.text, [])
  else if d = 0x63 then some (xputc (UInt8.ofInt arg.value), [])
  else (radixOf d).map fun r => ((xitoa arg.value r w).1, [(xitoa arg.value r w).2])

/-- The loop of `xprintf`: the characters, and the arrays of its calls of `xitoa`. -/
def xprintfTracedFrom : (rounds : Nat) → (str : List UInt8) → (arp : List Arg) →
    List UInt8 × List (Traced Nat UInt8)
  | 0, _, _ => ([], [])
  | _ + 1, [], _ => ([], [])
  | rounds + 1, d :: str, arp =>
      if d = 0 then ([], [])
      else if d ≠ 0x25 then
        let (characters, arrays) := xprintfTracedFrom rounds str arp
        (xputc d ++ characters, arrays)
      else
        match readSpec str with
        | (_, []) => ([], [])
        | (w, d :: str) =>
            match convertTraced d w (arp.headD (.int 0)) with
            | none => ([], [])
            | some (characters, arrays) =>
                let (rest, more) := xprintfTracedFrom rounds str arp.tail
                (characters ++ rest, arrays ++ more)

/-- `xprintf`, with the arrays of its calls of `xitoa`. -/
def xprintfTraced (str : List UInt8) (arp : List Arg) : List UInt8 × List (Traced Nat UInt8) :=
  xprintfTracedFrom str.length str arp

theorem convertTraced_fst (d : UInt8) (w : Int) (arg : Arg) :
    (convertTraced d w arg).map Prod.fst = convert d w arg := by
  rw [convertTraced, convert, apply_ite (Option.map Prod.fst), apply_ite (Option.map Prod.fst),
    Option.map_map]
  rfl

/-- The characters are those of `xprintf`. -/
theorem xprintfTracedFrom_fst (rounds : Nat) : ∀ (str : List UInt8) (arp : List Arg),
    (xprintfTracedFrom rounds str arp).1 = xprintfFrom rounds str arp := by
  induction rounds with
  | zero => exact fun _ _ => rfl
  | succ rounds ih =>
      intro str arp
      cases str with
      | nil => rfl
      | cons d str =>
          rw [xprintfTracedFrom, xprintfFrom]
          by_cases closed : d = 0
          · rw [if_pos closed, if_pos closed]
          rw [if_neg closed, if_neg closed]
          by_cases literal : d ≠ 0x25
          · rw [if_pos literal, if_pos literal]
            exact congrArg (xputc d ++ ·) (ih str arp)
          rw [if_neg literal, if_neg literal, readSpec]
          dsimp only
          generalize skipChar 0x6C (readWidth 0 (skipChar 48 str).2).2 = letter
          obtain ⟨_, _ | ⟨d, str⟩⟩ := letter
          · rfl
          dsimp only
          rw [← convertTraced_fst]
          cases convertTraced d _ (arp.headD (.int 0)) with
          | none => rfl
          | some converted => exact congrArg (converted.1 ++ ·) (ih str arp.tail)

theorem xprintfTraced_fst (str : List UInt8) (arp : List Arg) :
    (xprintfTraced str arp).1 = xprintf str arp := xprintfTracedFrom_fst ..

theorem skipChar_length (c : UInt8) (str : List UInt8) :
    (skipChar c str).2.length ≤ str.length := by
  cases str with
  | nil => exact Nat.le_refl 0
  | cons d str =>
      rw [skipChar]
      split
      · exact Nat.le_succ _
      · exact Nat.le_refl _

theorem readWidth_length (str : List UInt8) : ∀ w, (readWidth w str).2.length ≤ str.length := by
  induction str with
  | nil => exact fun _ => Nat.le_refl 0
  | cons d str ih =>
      intro w
      rw [readWidth]
      split
      · exact (ih _).trans (Nat.le_succ _)
      · exact Nat.le_refl _

theorem readSpec_length (str : List UInt8) : (readSpec str).2.length ≤ str.length :=
  (skipChar_length ..).trans ((readWidth_length ..).trans (skipChar_length ..))

/-- As many rounds as the format has characters are enough. -/
theorem xprintfTracedFrom_enough (rounds : Nat) : ∀ {enough : Nat} {str : List UInt8},
    str.length ≤ rounds → str.length ≤ enough → ∀ arp,
      xprintfTracedFrom rounds str arp = xprintfTracedFrom enough str arp := by
  induction rounds with
  | zero =>
      intro enough str short _ arp
      rw [List.eq_nil_of_length_eq_zero (Nat.le_zero.mp short)]
      cases enough <;> rfl
  | succ rounds ih =>
      intro enough str left right arp
      obtain _ | ⟨d, str⟩ := str
      · cases enough <;> rfl
      obtain _ | enough := enough
      · exact absurd right (Nat.not_succ_le_zero _)
      have left' : str.length ≤ rounds := Nat.le_of_succ_le_succ left
      have right' : str.length ≤ enough := Nat.le_of_succ_le_succ right
      rw [xprintfTracedFrom, xprintfTracedFrom, ih left' right']
      have shorter := readSpec_length str
      generalize readSpec str = spec at shorter
      obtain ⟨w, _ | ⟨letter, rest⟩⟩ := spec
      · rfl
      · have fewer : rest.length ≤ str.length := Nat.le_of_succ_le shorter
        dsimp only
        rw [ih (fewer.trans left') (fewer.trans right')]

/-- A text without conversions is printed as it stands. -/
theorem xprintf_append {text : List UInt8} (plain : ∀ c ∈ text, c ≠ 0 ∧ c ≠ 0x25 ∧ c ≠ 10)
    (str : List UInt8) (arp : List Arg) : xprintf (text ++ str) arp = text ++ xprintf str arp := by
  induction text with
  | nil => rfl
  | cons c text ih =>
      obtain ⟨open_, literal, oneLine⟩ := plain c List.mem_cons_self
      rw [xprintf, List.cons_append, List.length_cons, xprintfFrom, if_neg open_, if_pos literal,
        xputc, if_neg oneLine]
      exact congrArg (c :: ·) (ih fun d member => plain d (List.mem_cons_of_mem c member))

/-- **A conversion** is printed in front of what the rest of the format prints. -/
theorem xprintfTraced_conversion {str rest : List UInt8} {w : Int} {letter : UInt8}
    (spec : readSpec str = (w, letter :: rest)) {arg : Arg} {characters : List UInt8}
    {arrays : List (Traced Nat UInt8)}
    (converted : convertTraced letter w arg = some (characters, arrays)) (arp : List Arg) :
    xprintfTraced (0x25 :: str) (arg :: arp) =
      (characters ++ (xprintfTraced rest arp).1, arrays ++ (xprintfTraced rest arp).2) := by
  have shorter : rest.length ≤ str.length := by
    have := readSpec_length str
    rw [spec] at this
    exact Nat.le_of_succ_le this
  rw [xprintfTraced, List.length_cons, xprintfTracedFrom, if_neg (by decide), if_neg (by decide),
    spec]
  dsimp only
  rw [List.headD_cons, converted]
  dsimp only
  rw [xprintfTracedFrom_enough str.length shorter le_rfl, List.tail_cons]
  rfl

/-! ### Widths -/

/-- What the width of a conversion is read as. -/
def readAs (digits : List UInt8) (w : Int) : Int :=
  digits.foldl (fun w d => w + (w * 10 + (d.toNat - 48))) w

theorem readWidth_append {digits : List UInt8} (decimal : ∀ c ∈ digits, IsDecimal c)
    {letter : UInt8} (noDigit : ¬ (48 ≤ letter ∧ letter ≤ 57)) (rest : List UInt8) :
    ∀ w, readWidth w (digits ++ letter :: rest) = (readAs digits w, letter :: rest) := by
  induction digits with
  | nil => exact fun w => if_neg noDigit
  | cons d digits ih =>
      intro w
      have isDigit : 48 ≤ d ∧ d ≤ 57 := by
        rw [UInt8.le_iff_toNat_le, UInt8.le_iff_toNat_le]
        exact decimal d List.mem_cons_self
      rw [List.cons_append, readWidth, if_pos isDigit]
      exact ih (fun c member => decimal c (List.mem_cons_of_mem d member)) _

/-- The digits of a width; none stand for a width of zero. -/
def widthText (width : Nat) : List UInt8 := if width = 0 then [] else decimal width

theorem isDecimal_of_mem_widthText {width : Nat} : ∀ c ∈ widthText width, IsDecimal c := by
  intro c member
  rw [widthText] at member
  split at member
  · exact nomatch member
  · exact isDecimal_of_mem member

/-- **A width** below ten is read as it is, one from ten to nineteen as one more, and twenty as
twenty-two. -/
theorem readAs_widthText {width : Nat} (within : width ≤ 20) :
    readAs (widthText width) 0 =
      ((if width ≤ 9 then width else if width ≤ 19 then width + 1 else 22 : Nat) : Int) := by
  have widths : ∀ width < 21, readAs (widthText width) 0 =
      ((if width ≤ 9 then width else if width ≤ 19 then width + 1 else 22 : Nat) : Int) := by decide
  exact widths width (Nat.lt_succ_of_le within)

/-- A width does not begin with a zero. -/
theorem skipChar_widthText {width : Nat} (within : width ≤ 20) {letter : UInt8}
    (noZero : letter ≠ 48) (rest : List UInt8) : skipChar 48 (widthText width ++ letter :: rest) =
      (false, widthText width ++ letter :: rest) := by
  have widths : ∀ width < 21, (widthText width).head? ≠ some 48 := by decide
  have first := widths width (Nat.lt_succ_of_le within)
  cases text : widthText width with
  | nil => exact if_neg noZero
  | cons d digits =>
      rw [text] at first
      exact if_neg fun same => first (congrArg some same)

/-! ### Conversions -/

/-- The conversions of `xprintf` for numbers. -/
inductive Conversion where
  | d
  | u
  | x
  | X
  | b
  deriving DecidableEq, Repr

namespace Conversion

/-- The letter of a conversion. -/
def letter : Conversion → UInt8
  | d => 0x64
  | u => 0x75
  | x => 0x78
  | X => 0x58
  | b => 0x62

/-- The base it writes numbers to. -/
def base : Conversion → Nat
  | d | u => 10
  | x | X => 16
  | b => 2

/-- The number that a word stands for. -/
def denotes : Conversion → BitVec 32 → Int
  | d, value => value.toInt
  | u, value | x, value | X, value | b, value => value.toNat

/-- The numeral of a word. -/
def numeral (conversion : Conversion) (value : BitVec 32) : List UInt8 :=
  numeralOf conversion.base (conversion.denotes value)

/-- The conversion in a format, with the flag for zeros or without, and with a width. -/
def spec (conversion : Conversion) (zeros : Bool) (width : Nat) : List UInt8 :=
  0x25 :: ((if zeros then [48] else []) ++ (widthText width ++ [conversion.letter]))

/-- What `xprintf` gives `xitoa` as the base. -/
def radix : Conversion → Int
  | d => -10
  | u => 10
  | x | X => 16
  | b => 2

variable (conversion : Conversion)

theorem radixOf_letter : radixOf conversion.letter = some conversion.radix := by
  cases conversion <;> rfl

theorem convertTraced_letter (w : Int) (arg : Arg) : convertTraced conversion.letter w arg =
    some ((xitoa arg.value conversion.radix w).1, [(xitoa arg.value conversion.radix w).2]) := by
  rw [convertTraced, radixOf_letter]
  cases conversion <;> rfl

/-- The bits of a signed number, read without a sign. -/
theorem toInt_emod_toNat (value : BitVec 32) : (value.toInt % 2 ^ 32).toNat = value.toNat := by
  have bits := value.isLt
  rw [BitVec.toInt_eq_toNat_cond]
  split <;> omega

/-- The sign and the magnitude that `xitoa` finds. The smallest number is its own negative in 32
bits, which leaves its magnitude right. -/
theorem xitoa_finds (value : BitVec 32) :
    (conversion.radix < 0 ∧ value.toInt < 0 ↔ conversion.denotes value < 0) ∧
      (conversion.denotes value).natAbs < 2 ^ 32 ∧
      ((if conversion.denotes value < 0 then -value.toInt else value.toInt) % 2 ^ 32).toNat =
        (conversion.denotes value).natAbs := by
  have low := BitVec.le_toInt value
  have high := @BitVec.toInt_lt 32 value
  have bits := value.isLt
  have unsigned : ¬ (value.toNat : Int) < 0 ∧ (value.toNat : Int).natAbs < 2 ^ 32 ∧
      ((if (value.toNat : Int) < 0 then -value.toInt else value.toInt) % 2 ^ 32).toNat =
        (value.toNat : Int).natAbs := by
    have nonneg : ¬ (value.toNat : Int) < 0 := by omega
    rw [if_neg nonneg, toInt_emod_toNat]
    exact ⟨nonneg, by omega, rfl⟩
  have signed : value.toInt.natAbs < 2 ^ 32 ∧
      ((if value.toInt < 0 then -value.toInt else value.toInt) % 2 ^ 32).toNat =
        value.toInt.natAbs := by
    refine ⟨by omega, ?_⟩
    by_cases negative : value.toInt < 0
    · rw [if_pos negative]
      omega
    · rw [if_neg negative]
      omega
  cases conversion with
  | d => exact ⟨and_iff_right (by decide), signed⟩
  | u | x | X | b => exact ⟨iff_of_false (fun both => nomatch both.1) unsigned.1, unsigned.2⟩

/-- **`xitoa`** prints the numeral of a word. -/
theorem xitoa_word (value : BitVec 32) {len : Int} (most : len.natAbs ≤ 20) :
    PrintsNumeral conversion.base (conversion.denotes value) len
      (xitoa value.toInt conversion.radix len) := by
  obtain ⟨sign, word, magnitude⟩ := conversion.xitoa_finds value
  have bases : 1 < conversion.base ∧ conversion.base ≤ 16 ∧
      conversion.radix.natAbs = conversion.base := by
    cases conversion <;> decide
  exact xitoa_spec bases.2.1 bases.2.2 most sign magnitude bases.1 word

/-- What `xprintf` gives `xitoa` as the width. -/
def len (zeros : Bool) (width : Nat) : Int :=
  if zeros then -readAs (widthText width) 0 else readAs (widthText width) 0

/-- A conversion is read up to its letter. -/
theorem readSpec_spec (zeros : Bool) {width : Nat} (within : width ≤ 20) (rest : List UInt8) :
    readSpec ((if zeros then [48] else []) ++ (widthText width ++ conversion.letter :: rest)) =
      (len zeros width, conversion.letter :: rest) := by
  have letters : conversion.letter ≠ 48 ∧ ¬ (48 ≤ conversion.letter ∧ conversion.letter ≤ 57) ∧
      conversion.letter ≠ 0x6C := by
    cases conversion <;> decide
  have flag : skipChar 48 ((if zeros then [48] else []) ++
      (widthText width ++ conversion.letter :: rest)) =
        (zeros, widthText width ++ conversion.letter :: rest) := by
    cases zeros with
    | true => rfl
    | false => exact skipChar_widthText within letters.1 rest
  rw [readSpec, flag]
  dsimp only
  rw [readWidth_append isDecimal_of_mem_widthText letters.2.1]
  dsimp only
  rw [skipChar, if_neg letters.2.2, len]

/-- **A conversion in a format** prints what `xitoa` does for it. -/
theorem xprintfTraced_spec (zeros : Bool) {width : Nat} (within : width ≤ 20) (value : BitVec 32)
    (rest : List UInt8) (arp : List Arg) :
    xprintfTraced (conversion.spec zeros width ++ rest) (.int value.toInt :: arp) =
      let call := xitoa value.toInt conversion.radix (len zeros width)
      (call.1 ++ (xprintfTraced rest arp).1, call.2 :: (xprintfTraced rest arp).2) := by
  have format : conversion.spec zeros width ++ rest =
      0x25 :: ((if zeros then [48] else []) ++ (widthText width ++ conversion.letter :: rest)) := by
    rw [spec, List.cons_append, List.append_assoc, List.append_assoc, List.singleton_append]
  rw [format, xprintfTraced_conversion (conversion.readSpec_spec zeros within rest)
    (conversion.convertTraced_letter ..)]
  rfl

end Conversion

/-- A conversion prints the numeral of a word up to the width, whatever follows in the format, and
`xitoa` stays inside its array for it. -/
structure Prints (conversion : Conversion) (zeros : Bool) (width : Nat) (value : BitVec 32) :
    Prop where
  text : ∀ rest arp, xprintf (conversion.spec zeros width ++ rest) (.int value.toInt :: arp) =
    padded (if zeros then 48 else 32) width (conversion.numeral value) ++ xprintf rest arp
  inside : ∀ s ∈ (xprintfTraced (conversion.spec zeros width) [.int value.toInt]).2,
    Traced.Within (· < 20) s


/-- A width below ten is read as it stands; one up to nineteen is read as one more, which is no harm
where the numeral is longer. The numeral has no more than twenty characters. -/
def ReadRight (conversion : Conversion) (width : Nat) (value : BitVec 32) : Prop :=
  (width ≤ 9 ∨ width ≤ 19 ∧ width < (conversion.numeral value).length) ∧
    (conversion.numeral value).length ≤ 20

section Prints

variable {conversion : Conversion} {zeros : Bool} {width : Nat} {value : BitVec 32}

theorem numeral_pos (conversion : Conversion) (value : BitVec 32) :
    0 < (conversion.numeral value).length := by
  rw [Conversion.numeral, numeralOf, List.length_append, numeralTo, List.length_map]
  exact Nat.add_pos_right _ Nat.length_toDigits_pos

/-- What is printed for a conversion is what its call of `xitoa` prints. -/
theorem prints_iff_call (within : width ≤ 20) : Prints conversion zeros width value ↔
    let call := xitoa value.toInt conversion.radix (Conversion.len zeros width)
    call.1 = padded (if zeros then 48 else 32) width (conversion.numeral value) ∧
      Traced.Within (· < 20) call.2 := by
  have spec := conversion.xprintfTraced_spec zeros within value
  have alone := spec [] []
  rw [List.append_nil] at alone
  refine ⟨fun prints => ⟨?_, prints.inside _ ?_⟩, fun ⟨text, inside⟩ => ⟨?_, ?_⟩⟩
  · have printed := prints.text [] []
    rw [List.append_nil, ← xprintfTraced_fst, alone] at printed
    exact List.append_cancel_right printed
  · rw [alone]
    exact List.mem_cons_self
  · intro rest arp
    rw [← xprintfTraced_fst, spec, ← text, ← xprintfTraced_fst]
  · intro s member
    rw [alone] at member
    exact (List.mem_singleton.mp member) ▸ inside

/-- The sign of the width that `xitoa` is given says what to fill up with. -/
theorem padded_len {read : Nat} (reads : readAs (widthText width) 0 = read) (text : List UInt8) :
    (Conversion.len zeros width).natAbs = read ∧
      padded (if Conversion.len zeros width < 0 then 48 else 32) read text =
        padded (if zeros then 48 else 32) read text := by
  rw [Conversion.len, reads]
  cases zeros with
  | false =>
      refine ⟨Int.natAbs_natCast read, ?_⟩
      rw [if_neg Bool.false_ne_true, if_neg (Int.not_lt.mpr (Int.natCast_nonneg read)),
        if_neg Bool.false_ne_true]
  | true =>
      rw [if_pos rfl, if_pos rfl]
      refine ⟨by rw [Int.natAbs_neg, Int.natAbs_natCast], ?_⟩
      obtain rfl | positive := Nat.eq_zero_or_pos read
      · rw [padded, padded, Nat.zero_sub]
        rfl
      · rw [if_pos (by omega)]

/-- A width that the array has room for is honoured if it is read right or does not matter. -/
theorem prints_iff_read {read : Nat} (within : width ≤ 20)
    (reads : readAs (widthText width) 0 = read) (room : read ≤ 20) :
    Prints conversion zeros width value ↔
      max (conversion.numeral value).length read = max (conversion.numeral value).length width ∧
        (conversion.numeral value).length ≤ 20 := by
  obtain ⟨absolute, pads⟩ := @padded_len zeros width read reads (conversion.numeral value)
  have call := conversion.xitoa_word value (absolute.le.trans room)
  rw [prints_iff_call within]
  dsimp only
  rw [call.text, call.within, absolute, ← Conversion.numeral, pads, padded_eq_iff]
  refine and_congr_right fun _ => ?_
  rw [Nat.max_le]
  exact and_iff_left room

/-- **A number is printed as asked for** exactly if its width is read right, or does not matter, and
its numeral has no more than twenty characters. -/
theorem prints_iff (conversion : Conversion) (zeros : Bool) {width : Nat} (within : width ≤ 20)
    (value : BitVec 32) :
    Prints conversion zeros width value ↔ ReadRight conversion width value := by
  have reads := readAs_widthText within
  rw [ReadRight]
  by_cases short : width ≤ 9
  · rw [if_pos short] at reads
    rw [prints_iff_read within reads within]
    exact and_congr_left' (iff_of_true rfl (.inl short))
  rw [if_neg short] at reads
  by_cases room : width ≤ 19
  · rw [if_pos room] at reads
    rw [prints_iff_read within reads (Nat.succ_le_succ room)]
    refine and_congr_left' ⟨fun same => .inr ⟨room, ?_⟩, fun longer => ?_⟩
    · omega
    · omega
  · -- the array has no room for the width, and nothing is printed
    rw [if_neg room] at reads
    obtain ⟨absolute, -⟩ := @padded_len zeros width 22 reads []
    have wide : (Conversion.len zeros width).natAbs > 20 := by rw [absolute]; decide
    refine iff_of_false (fun prints => ?_) fun right => ?_
    · have text := ((prints_iff_call within).mp prints).1
      rw [xitoa, if_pos wide] at text
      have length := congrArg List.length text
      rw [padded_length] at length
      have some_ := numeral_pos conversion value
      exact absurd length (by simp only [List.length_nil]; omega)
    · obtain short' | ⟨room', -⟩ := right.1
      · exact short short'
      · exact room room'

end Prints

/-- A byte in hexadecimal with two digits. -/
theorem prints_hex_byte : 2 ≤ 20 ∧ (Prints .x true 2 0x7F#32 ↔ ReadRight .x 2 0x7F#32) :=
  ⟨by decide, prints_iff .x true (by decide) 0x7F#32⟩

/-- **`%12u` and `%b`.** The number 5 comes out with thirteen characters in place of twelve, and the
binary digits of 2²⁰ are stored behind the array. -/
theorem prints_twelve_and_binary :
    ¬ Prints .u false 12 5#32 ∧ ¬ Prints .b false 0 0x100000#32 := by
  refine ⟨fun prints => absurd (prints.text [] []) (by decide), fun prints => ?_⟩
  have behind := prints.inside _ List.mem_cons_self 20 (by decide)
  exact absurd behind (by decide)

/-- Only binary numerals are too long for the array, those of the numbers from 2²⁰ on. -/
theorem numeral_length_le_iff (conversion : Conversion) (value : BitVec 32) :
    (conversion.numeral value).length ≤ 20 ↔ (conversion = .b → value.toNat < 2 ^ 20) := by
  have low := BitVec.le_toInt value
  have high := @BitVec.toInt_lt 32 value
  have bits := value.isLt
  have unsigned : ∀ {base : Nat}, 1 < base →
      ((numeralOf base value.toNat).length ≤ 20 ↔ value.toNat < base ^ 20) := fun positional => by
    rw [numeralOf, if_neg (by omega), List.nil_append, Int.natAbs_natCast]
    exact numeralTo_length_le positional (by decide)
  cases conversion with
  | d =>
      refine iff_of_true ?_ fun same => absurd same (by decide)
      have digits : (numeralTo 10 value.toInt.natAbs).length ≤ 19 :=
        (numeralTo_length_le (by decide) (by decide)).mpr (by omega)
      show (numeralOf 10 value.toInt).length ≤ 20
      rw [numeralOf, List.length_append]
      have sign : (if value.toInt < 0 then [45] else [] : List UInt8).length ≤ 1 := by
        split <;> decide
      omega
  | u | x | X =>
      refine iff_of_true ?_ fun same => absurd same (by decide)
      exact (unsigned (by decide)).mpr (bits.trans (by decide))
  | b => exact (unsigned (by decide)).trans ⟨fun small _ => small, fun small => small rfl⟩

end EquinoxClock.Console
