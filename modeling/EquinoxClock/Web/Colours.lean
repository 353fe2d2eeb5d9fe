/-
`/setclockcolour?` and `/setallcolour?`: colours as six hexadecimal digits.

Two digits at a time are copied into the scratch buffer, whose third byte nobody sets, so digits
that stand there are read as well. And the name `bc` of the background is looked for in the whole
query, where the digits of another colour may be these two letters. `setsColours_iff` says when the
four colours are set all the same, and `colours_iff` adds the one of `/setallcolour?`.
-/

import EquinoxClock.Lib.Hex
import EquinoxClock.Web.Query
import EquinoxClock.Web.Repeated

namespace EquinoxClock.Web

open EquinoxClock.Led EquinoxClock.Lib EquinoxClock.Rtc

/-! ### Colours and requests -/

/-- The colour that six digits write. -/
def colourOf (digits : List UInt8) : Colour where
  r := Lib.digits 16 0 (digits.take 2)
  g := Lib.digits 16 0 ((digits.drop 2).take 2)
  b := Lib.digits 16 0 ((digits.drop 4).take 2)

/-- A colour of 24 bits, as the form sends it. -/
structure HexColour where
  chars : List UInt8
  six : chars.length = 6
  hex : ∀ c ∈ chars, isxdigit c = true

/-- The colour. -/
def HexColour.colour (colour : HexColour) : Colour := colourOf colour.chars

/-- `tolower`. -/
def tolower (c : UInt8) : UInt8 := if 65 ≤ c ∧ c ≤ 90 then c + 32 else c

/-- The digits of a colour in small letters. -/
def HexColour.lower (colour : HexColour) : List UInt8 := colour.chars.map tolower

/-- The format `%02x`. -/
def sprintf02x (n : Nat) : List UInt8 :=
  let digits := (Nat.toDigits 16 n).map fun c => UInt8.ofNat c.toNat
  List.replicate (2 - digits.length) 48 ++ digits

/-- The value of a colour in the form: the format `%02x%02x%02x`. -/
def printed (colour : Colour) : List UInt8 :=
  sprintf02x colour.r ++ sprintf02x colour.g ++ sprintf02x colour.b

/-- The request of the form for the colours of the clock. -/
def clockColourUrl (hc mc sc bc : HexColour) : List UInt8 :=
  ascii "/setclockcolour?hc=" ++ (hc.chars ++ (ascii "&mc=" ++ (mc.chars ++ (ascii "&sc=" ++
    (sc.chars ++ (ascii "&bc=" ++ bc.chars))))))

/-- The request of the form for one colour. -/
def allColourUrl (bc : HexColour) : List UInt8 := ascii "/setallcolour?bc=" ++ bc.chars

/-- A variable holds a colour, and the form shows it as it was sent, in small letters. -/
def Holds (variable_ : Colour) (colour : HexColour) : Prop :=
  variable_ = colour.colour ∧ printed variable_ = colour.lower

/-- All colours of the clock are set. -/
def SetsColours (hc mc sc bc : HexColour) (leds : Leds) : Prop :=
  Holds leds.hc hc ∧ Holds leds.mc mc ∧ Holds leds.sc sc ∧ Holds leds.bc bc

/-! ### The form -/

/-- The six digits. -/
theorem chars_eq (colour : HexColour) : ∃ a b c d e f, colour.chars = [a, b, c, d, e, f] ∧
    (isxdigit a = true ∧ isxdigit b = true) ∧ (isxdigit c = true ∧ isxdigit d = true) ∧
      (isxdigit e = true ∧ isxdigit f = true) := by
  obtain ⟨chars, six, hex⟩ := colour
  match chars, six with
  | [a, b, c, d, e, f], _ =>
      simp only [List.forall_mem_cons] at hex
      obtain ⟨hexA, hexB, hexC, hexD, hexE, hexF, -⟩ := hex
      exact ⟨a, b, c, d, e, f, rfl, ⟨hexA, hexB⟩, ⟨hexC, hexD⟩, ⟨hexE, hexF⟩⟩

/-- The small letter of a digit is the character for its value. -/
theorem tolower_digit : ∀ c : UInt8, ∀ d ∈ digit 16 c, sprintf02x d = [48, tolower c] :=
  forall_byte (by decide +kernel)

/-- Two digits are those of the two halves. -/
theorem sprintf02x_byte : ∀ high < 16, ∀ low < 16, ∀ c d : UInt8, sprintf02x high = [48, c] →
    sprintf02x low = [48, d] → sprintf02x (high * 16 + low) = [c, d] := by
  have byte : ∀ high < 16, ∀ low < 16,
      sprintf02x (high * 16 + low) = (sprintf02x high).drop 1 ++ (sprintf02x low).drop 1 := by
    decide +kernel
  intro high highLt low lowLt c d first second
  rw [byte high highLt low lowLt, first, second]
  rfl

theorem digits_pair {c d : UInt8} {high low : Nat} (first : digit 16 c = some high)
    (second : digit 16 d = some low) : digits 16 0 [c, d] = high * 16 + low := by
  simp only [digits, first, second, Nat.zero_mul, Nat.zero_add]

/-- A pair of digits is printed as it was sent, in small letters. -/
theorem sprintf02x_pair {c d : UInt8} (hex : isxdigit c = true ∧ isxdigit d = true) :
    sprintf02x (digits 16 0 [c, d]) = [tolower c, tolower d] := by
  obtain ⟨high, first⟩ := isxdigit_iff.mp hex.1
  obtain ⟨low, second⟩ := isxdigit_iff.mp hex.2
  rw [digits_pair first second]
  exact sprintf02x_byte high (digit_lt first) low (digit_lt second) _ _
    (tolower_digit c high first) (tolower_digit d low second)

/-- **A colour is printed as it was sent**, in small letters. -/
theorem printed_colour (colour : HexColour) : printed colour.colour = colour.lower := by
  obtain ⟨a, b, c, d, e, f, chars, red, green, blue⟩ := chars_eq colour
  rw [HexColour.lower, HexColour.colour, chars]
  show sprintf02x (digits 16 0 [a, b]) ++ sprintf02x (digits 16 0 [c, d]) ++
    sprintf02x (digits 16 0 [e, f]) = _
  rw [sprintf02x_pair red, sprintf02x_pair green, sprintf02x_pair blue]
  rfl

theorem holds_iff (variable_ : Colour) (colour : HexColour) :
    Holds variable_ colour ↔ variable_ = colour.colour := by
  refine ⟨fun both => both.1, ?_⟩
  rintro rfl
  exact ⟨rfl, printed_colour colour⟩

/-! ### Two digits through the scratch buffer -/

/-- What is read for two characters, copied in front of what the scratch buffer holds. -/
def reading (tmp s : List UInt8) : Nat := capped (digits 16 0 (s.take 2 ++ tmp.drop 2))

/-- The colour that is read from six characters. -/
def readColour (tmp s : List UInt8) : Colour :=
  ⟨reading tmp s, reading tmp (s.drop 2), reading tmp (s.drop 4)⟩

section Reading

variable {tmp url s : List UInt8}

/-- A pair of characters is read with what stands in the scratch buffer. -/
theorem hexPair_eq (isPlain : ∀ c ∈ url, plain c = true) {i : Nat} (inside : i + 2 ≤ url.length)
    (behind : List UInt8) : hexPair tmp (url ++ 0 :: behind) i = reading tmp (url.drop i) := by
  obtain ⟨c, d, rest, split⟩ : ∃ c d rest, url.drop i = c :: d :: rest := by
    have long : 2 ≤ (url.drop i).length := by
      rw [List.length_drop]
      omega
    match url.drop i, long with
    | c :: d :: rest, _ => exact ⟨c, d, rest, rfl⟩
  have plainFirst : plain c = true :=
    isPlain c (List.mem_of_mem_drop (split ▸ List.mem_cons_self))
  have plainSecond : plain d = true :=
    isPlain d (List.mem_of_mem_drop (split ▸ List.mem_cons_of_mem c List.mem_cons_self))
  have copied : ∀ more, strncpyBytes 2 (c :: d :: more) = [c, d] := by
    intro more
    rw [strncpyBytes, List.headD_cons, if_neg (ne_zero_of_plain plainFirst), List.tail_cons,
      strncpyBytes, List.headD_cons, if_neg (ne_zero_of_plain plainSecond), strncpyBytes]
  rw [hexPair, strncpy, List.drop_append_of_le_length (by omega), split, List.cons_append,
    List.cons_append, copied]
  exact strtoul_hex plainFirst plainSecond (tmp.drop 2)

theorem colourAt_eq (isPlain : ∀ c ∈ url, plain c = true) {i : Nat} (inside : i + 9 ≤ url.length)
    (behind : List UInt8) :
    colourAt tmp (url ++ 0 :: behind) i = readColour tmp (url.drop (i + 3)) := by
  rw [colourAt, hexPair_eq isPlain (by omega), hexPair_eq isPlain (by omega),
    hexPair_eq isPlain (by omega), readColour, List.drop_drop, List.drop_drop]

/-- With no digit in the scratch buffer, a pair of characters is read for itself. -/
theorem reading_clean (clean : leading (tmp.drop 2) = []) :
    reading tmp s = digits 16 0 (s.take 2) := by
  have small := digits_lt (s.take 2) 0
  have short : 16 ^ (s.take 2).length ≤ 16 ^ 2 :=
    Nat.pow_le_pow_right (by decide) (List.length_take_le 2 s)
  rw [reading, digits_append ((leading_eq_nil _).mp clean), capped, if_neg (by omega)]

theorem readColour_clean (clean : leading (tmp.drop 2) = []) : readColour tmp s = colourOf s := by
  rw [readColour, reading_clean clean, reading_clean clean, reading_clean clean, colourOf]

/-- A pair of digits is read as it is exactly if nothing is read with it, or only zeros are. -/
theorem reading_iff (hex : ∀ c ∈ s.take 2, isxdigit c = true) :
    reading tmp s = digits 16 0 (s.take 2) ↔
      leading (tmp.drop 2) = [] ∨ digits 16 0 (s.take 2) = 0 ∧ digits 16 0 (tmp.drop 2) = 0 := by
  have small := digits_lt (s.take 2) 0
  have short : 16 ^ (s.take 2).length ≤ 16 ^ 2 :=
    Nat.pow_le_pow_right (by decide) (List.length_take_le 2 s)
  rw [reading, digits_digits hex]
  exact digits_iff (by omega) (tmp.drop 2)

/-- **A colour is read as it is** exactly if no digit stands in the scratch buffer, or the colour is
black and only zeros do. -/
theorem readColour_iff (colour : HexColour) (rest : List UInt8) :
    readColour tmp (colour.chars ++ rest) = colour.colour ↔ leading (tmp.drop 2) = [] ∨
      colour.colour = ⟨0, 0, 0⟩ ∧ digits 16 0 (tmp.drop 2) = 0 := by
  obtain ⟨a, b, c, d, e, f, chars, red, green, blue⟩ := chars_eq colour
  have red := @reading_iff tmp [a, b] (by simp [red])
  have green := @reading_iff tmp [c, d] (by simp [green])
  have blue := @reading_iff tmp [e, f] (by simp [blue])
  rw [HexColour.colour, chars]
  show (⟨reading tmp [a, b], reading tmp [c, d], reading tmp [e, f]⟩ : Colour) =
    ⟨digits 16 0 [a, b], digits 16 0 [c, d], digits 16 0 [e, f]⟩ ↔ _ ∨
      (⟨digits 16 0 [a, b], digits 16 0 [c, d], digits 16 0 [e, f]⟩ : Colour) = ⟨0, 0, 0⟩ ∧ _
  rw [Colour.mk.injEq, Colour.mk.injEq]
  refine (and_congr red (and_congr green blue)).trans ?_
  rw [← or_and_left, ← or_and_left, ← and_and_right, ← and_and_right]
  exact Iff.rfl

end Reading

theorem eq_zero_of_digit : ∀ c : UInt8, digit 16 c = some 0 → c = 48 :=
  forall_byte (by decide +kernel)

theorem pair_zero {c d : UInt8} (hex : isxdigit c = true ∧ isxdigit d = true)
    (zero : digits 16 0 [c, d] = 0) : c = 48 ∧ d = 48 := by
  obtain ⟨high, first⟩ := isxdigit_iff.mp hex.1
  obtain ⟨low, second⟩ := isxdigit_iff.mp hex.2
  rw [digits_pair first second] at zero
  obtain rfl : high = 0 := by omega
  obtain rfl : low = 0 := by omega
  exact ⟨eq_zero_of_digit c first, eq_zero_of_digit d second⟩

/-- Black is written with zeros, so no name stands in its digits. -/
theorem free_of_black {colour : HexColour} (black : colour.colour = ⟨0, 0, 0⟩) :
    ¬ ascii "bc" <:+: colour.chars := by
  obtain ⟨a, b, c, d, e, f, chars, hexRed, hexGreen, hexBlue⟩ := chars_eq colour
  rw [HexColour.colour, chars] at black
  obtain ⟨red, green, blue⟩ := Colour.mk.inj black
  obtain ⟨rfl, rfl⟩ := pair_zero hexRed red
  obtain ⟨rfl, rfl⟩ := pair_zero hexGreen green
  obtain ⟨rfl, rfl⟩ := pair_zero hexBlue blue
  rw [chars]
  exact fun stands => absurd (stands.subset (show 98 ∈ ascii "bc" by decide)) (by decide)

/-! ### Where the names stand -/

/-- The text stands at a place of a string, and nowhere before it. -/
def StandsFirst (text s : List UInt8) (place : Nat) : Prop :=
  text <+: s.drop place ∧ ∀ earlier < place, ¬ text <+: s.drop earlier

/-- The names of the colours. -/
def colourNames : List String := ["hc", "mc", "sc", "bc"]

/-- The colours of the form by their names. -/
def formTexts (hc mc sc bc : HexColour) : String → List UInt8
  | "hc" => hc.chars
  | "mc" => mc.chars
  | "sc" => sc.chars
  | _ => bc.chars

theorem colourNames_hc : colourNames = [] ++ "hc" :: ["mc", "sc", "bc"] := rfl

theorem colourNames_mc : colourNames = ["hc"] ++ "mc" :: ["sc", "bc"] := rfl

theorem colourNames_sc : colourNames = ["hc", "mc"] ++ "sc" :: ["bc"] := rfl

theorem colourNames_bc : colourNames = ["hc", "mc", "sc"] ++ "bc" :: [] := rfl

theorem length_colourName : ∀ name ∈ colourNames, (ascii name).length = 2 := by decide +kernel

/-- A name whose first letter is no digit does not stand in the digits of a colour. -/
theorem free_of_letter {name : String} {c : UInt8} {cs : List UInt8} (first : ascii name = c :: cs)
    (noDigit : isxdigit c = false) (colour : HexColour) : ¬ ascii name <:+: colour.chars := by
  intro stands
  have member : c ∈ colour.chars := stands.subset (first ▸ List.mem_cons_self)
  exact absurd (colour.hex c member) (by rw [noDigit]; decide)

section Names

variable (hc mc sc bc : HexColour) (rest behind : List UInt8)

theorem clockColourUrl_eq : clockColourUrl hc mc sc bc ++ rest = ascii "/setcl" ++
    (ascii "ockcolour?" ++ (query (formTexts hc mc sc bc) colourNames ++ rest)) := by
  have last : query (formTexts hc mc sc bc) ["bc"] = field (formTexts hc mc sc bc) "bc" :=
    List.intercalate_singleton
  rw [colourNames, query_cons_cons, query_cons_cons, query_cons_cons, last]
  simp only [clockColourUrl, field, List.append_assoc, List.cons_append, List.nil_append]
  rfl

theorem length_formTexts (name : String) : (formTexts hc mc sc bc name).length = 6 := by
  unfold formTexts
  split
  exacts [hc.six, mc.six, sc.six, bc.six]

/-- A field and the `&` behind it are ten characters. -/
theorem length_inFront {before : List String} (names : ∀ other ∈ before, other ∈ colourNames) :
    (inFront (formTexts hc mc sc bc) before).length = 10 * before.length := by
  have each : ∀ other ∈ before, (field (formTexts hc mc sc bc) other ++ [38]).length = 10 := by
    intro other member
    rw [List.length_append, field, List.length_append, List.length_cons, length_formTexts,
      length_colourName other (names other member), List.length_singleton]
  rw [inFront, List.length_flatMap, List.map_congr_left each, List.map_const',
    List.sum_replicate_nat, Nat.mul_comm]

theorem length_before {before after : List String} {name : String}
    (names : colourNames = before ++ name :: after) : before.length ≤ 3 := by
  have whole := congrArg List.length names
  rw [List.length_append, List.length_cons] at whole
  have four : colourNames.length = 4 := rfl
  omega

/-- The request from a field on. -/
theorem drop_clockColourUrl {before after : List String} {name : String}
    (names : colourNames = before ++ name :: after) :
    (clockColourUrl hc mc sc bc ++ rest).drop (16 + 10 * before.length) =
      field (formTexts hc mc sc bc) name ++
        (behindField (formTexts hc mc sc bc) after ++ rest) := by
  have long := length_inFront hc mc sc bc fun other member =>
    names ▸ List.mem_append_left (name :: after) member
  have place : 16 + 10 * before.length = (ascii "/setcl").length + ((ascii "ockcolour?").length +
      (inFront (formTexts hc mc sc bc) before).length) := by
    rw [long]
    show 16 + 10 * before.length = 6 + (10 + 10 * before.length)
    omega
  rw [clockColourUrl_eq, names, place]
  exact drop_query

/-- **Each name is found** in its place, unless it stands in the digits of a colour before it. -/
theorem firstAt_clockColourUrl {before after : List String} {name : String}
    (names : colourNames = before ++ name :: after)
    (free : ∀ other ∈ before, ¬ ascii name <:+: formTexts hc mc sc bc other) :
    firstAt (clockColourUrl hc mc sc bc ++ 0 :: behind) name 6 44 =
      some (16 + 10 * before.length) := by
  have tests : ∀ name ∈ colourNames, absentTest name (ascii "ockcolour?") = true ∧
      (ascii name).all (· != 0) = true ∧ 38 ∉ ascii name ∧
      ∀ other ∈ colourNames, other ≠ name → absentTest name (ascii other ++ [61]) = true := by
    decide +kernel
  have isName : name ∈ colourNames := names ▸ List.mem_append_right before List.mem_cons_self
  have isBefore : ∀ other ∈ before, other ∈ colourNames ∧ other ≠ name := by
    have nodup : (before ++ name :: after).Nodup := names ▸ (by decide +kernel)
    intro other member
    refine ⟨names ▸ List.mem_append_left _ member, ?_⟩
    exact (List.nodup_append.mp nodup).2.2 other member name List.mem_cons_self
  obtain ⟨request, noNul, without, inNames⟩ := tests name isName
  have absent : ∀ other ∈ before, Absent name (field (formTexts hc mc sc bc) other ++ [38]) := by
    intro other member
    exact absent_field (inNames other (isBefore other member).1 (isBefore other member).2)
      (absent_terminated noNul without (free other member))
  have long := length_inFront hc mc sc bc fun other member => (isBefore other member).1
  have few := length_before names
  have found := @firstAt_query (formTexts hc mc sc bc) name before after (ascii "/setcl")
    (ascii "ockcolour?") (0 :: behind) noNul (absent_of_test request) absent 44
    (show 10 + (inFront (formTexts hc mc sc bc) before).length < 44 by omega)
  rw [clockColourUrl_eq, names]
  refine found.trans (congrArg some ?_)
  rw [long]
  show 6 + (10 + 10 * before.length) = 16 + 10 * before.length
  omega

theorem length_clockColourUrl : (clockColourUrl hc mc sc bc).length = 55 := by
  simp only [clockColourUrl, List.length_append, hc.six, mc.six, sc.six, bc.six]
  rfl

/-- Every character is a digit, or ends a number. -/
theorem plain_clockColourUrl : ∀ c ∈ clockColourUrl hc mc sc bc, plain c = true := by
  have digits : ∀ colour : HexColour, ∀ c ∈ colour.chars, plain c = true :=
    fun colour c member => plain_of_isxdigit c (colour.hex c member)
  simp only [clockColourUrl, List.forall_mem_append]
  have name : ∀ text : List UInt8, text.all plain = true → ∀ c ∈ text, plain c = true :=
    fun _ => List.all_eq_true.mp
  exact ⟨name _ (by decide), digits hc, name _ (by decide), digits mc, name _ (by decide), digits sc,
    name _ (by decide), digits bc⟩

theorem firstAt_hc : firstAt (clockColourUrl hc mc sc bc ++ 0 :: behind) "hc" 6 44 = some 16 :=
  firstAt_clockColourUrl hc mc sc bc behind colourNames_hc fun _ none => nomatch none

theorem firstAt_mc : firstAt (clockColourUrl hc mc sc bc ++ 0 :: behind) "mc" 6 44 = some 26 := by
  have free := free_of_letter (show ascii "mc" = [109, 99] by decide) (by decide)
  refine firstAt_clockColourUrl hc mc sc bc behind colourNames_mc ?_
  rw [List.forall_mem_singleton]
  exact free hc

theorem firstAt_sc : firstAt (clockColourUrl hc mc sc bc ++ 0 :: behind) "sc" 6 44 = some 36 := by
  have free := free_of_letter (show ascii "sc" = [115, 99] by decide) (by decide)
  refine firstAt_clockColourUrl hc mc sc bc behind colourNames_sc ?_
  simp only [List.forall_mem_cons]
  exact ⟨free hc, free mc, fun _ none => nomatch none⟩

theorem StandsFirst.unique {text s : List UInt8} {place other : Nat}
    (first : StandsFirst text s place) (first' : StandsFirst text s other) : place = other := by
  obtain before | same | behind := Nat.lt_trichotomy place other
  · exact absurd first.1 (first'.2 place before)
  · exact same
  · exact absurd first'.1 (first.2 other behind)

/-- The name of the background is found where it stands first. -/
theorem firstAt_bc : ∃ place ≤ 46,
    firstAt (clockColourUrl hc mc sc bc ++ 0 :: behind) "bc" 6 44 = some place ∧
      StandsFirst (ascii "bc") (clockColourUrl hc mc sc bc) place := by
  have noNul : (ascii "bc").all (· != 0) = true := by decide
  have stands : begins "bc" ((clockColourUrl hc mc sc bc ++ 0 :: behind).drop 46) = true := by
    have dropped := drop_clockColourUrl hc mc sc bc (0 :: behind) colourNames_bc
    rw [show 46 = 16 + 10 * ["hc", "mc", "sc"].length from rfl, dropped, begins_iff noNul, field,
      List.append_assoc]
    exact List.prefix_append _ _
  obtain ⟨place, found⟩ : ∃ place, firstAt (clockColourUrl hc mc sc bc ++ 0 :: behind) "bc" 6 44 =
      some place :=
    Option.isSome_iff_exists.mp (List.find?_isSome.mpr ⟨46, by decide +kernel, stands⟩)
  obtain ⟨here, inRange, others⟩ := List.find?_range'_eq_some.mp found
  have inTime : place ≤ 46 := by
    by_contra late
    have notHere := others 46 (by decide) (not_le.mp late)
    rw [stands] at notHere
    exact absurd notHere (by decide)
  have inUrl : ∀ i ≤ 46, begins "bc" ((clockColourUrl hc mc sc bc ++ 0 :: behind).drop i) = true ↔
      ascii "bc" <+: (clockColourUrl hc mc sc bc).drop i := by
    intro i early
    rw [begins_terminated noNul (by rw [length_clockColourUrl]; omega), begins_iff noNul]
  refine ⟨place, inTime, found, (inUrl place inTime).mp here, fun earlier before stands' => ?_⟩
  have begun := (inUrl earlier (by omega)).mpr stands'
  by_cases inRequest : earlier < 6
  · have absent : Absent "bc" (ascii "/setcl") := absent_of_test (by decide)
    rw [clockColourUrl_eq, List.drop_append_of_le_length (Nat.le_of_lt inRequest),
      absent earlier inRequest] at begun
    exact absurd begun (by decide)
  · have notHere := others earlier (not_lt.mp inRequest) before
    rw [begun] at notHere
    exact absurd notHere (by decide)

/-- If it stands in no other colour, that is in its own field. -/
theorem standsFirst_free (free : ∀ colour ∈ [hc, mc, sc], ¬ ascii "bc" <:+: colour.chars) :
    StandsFirst (ascii "bc") (clockColourUrl hc mc sc bc) 46 := by
  obtain ⟨place, -, found, first⟩ := firstAt_bc hc mc sc bc []
  have inFields : ∀ other ∈ ["hc", "mc", "sc"], ¬ ascii "bc" <:+: formTexts hc mc sc bc other := by
    simp only [List.forall_mem_cons] at free ⊢
    exact ⟨free.1, free.2.1, free.2.2.1, fun _ none => nomatch none⟩
  have meant := firstAt_clockColourUrl hc mc sc bc [] colourNames_bc inFields
  have same : place = 46 := Option.some.inj (found.symm.trans meant)
  exact same ▸ first

end Names

/-! ### The requests -/

/-- The six characters behind the first `bc` of the request, and one more, write the background. -/
def BackgroundRead (hc mc sc bc : HexColour) : Prop :=
  ∀ place, StandsFirst (ascii "bc") (clockColourUrl hc mc sc bc) place →
    colourOf ((clockColourUrl hc mc sc bc).drop (place + 3)) = bc.colour

section

variable (hc mc sc bc : HexColour) (behind tmp : List UInt8) (transferred : Bool) (device : Device)

theorem apart_colourNames : Apart colourNames := by decide +kernel

/-- What stands behind the digits does not matter. -/
theorem colourOf_append (colour : HexColour) (rest : List UInt8) :
    colourOf (colour.chars ++ rest) = colour.colour := by
  have clean : leading (List.drop 2 []) = [] := rfl
  rw [← readColour_clean clean]
  exact (readColour_iff colour rest).mpr (.inl clean)

/-- The digits of a colour stand behind its name. -/
theorem drop_chars {before after : List String} {name : String}
    (names : colourNames = before ++ name :: after) :
    ∃ rest, (clockColourUrl hc mc sc bc).drop (16 + 10 * before.length + 3) =
      formTexts hc mc sc bc name ++ rest := by
  have isName : name ∈ colourNames := names ▸ List.mem_append_right before List.mem_cons_self
  have dropped := drop_clockColourUrl hc mc sc bc [] names
  rw [List.append_nil] at dropped
  refine ⟨behindField (formTexts hc mc sc bc) after ++ [], ?_⟩
  rw [← List.drop_drop, dropped, show 3 = (ascii name).length + 1 by rw [length_colourName name isName],
    drop_field]

/-- A colour is read as it is in its place. -/
theorem readColour_place {before after : List String} {name : String}
    (names : colourNames = before ++ name :: after) {colour : HexColour}
    (text : formTexts hc mc sc bc name = colour.chars) :
    readColour tmp ((clockColourUrl hc mc sc bc).drop (16 + 10 * before.length + 3)) =
      colour.colour ↔ leading (tmp.drop 2) = [] ∨
        colour.colour = ⟨0, 0, 0⟩ ∧ digits 16 0 (tmp.drop 2) = 0 := by
  obtain ⟨rest, behindName⟩ := drop_chars hc mc sc bc names
  rw [behindName, text]
  exact readColour_iff colour rest

/-- If `bc` stands in no other colour, the background is read in its place. -/
theorem backgroundRead_free (free : ∀ colour ∈ [hc, mc, sc], ¬ ascii "bc" <:+: colour.chars) :
    BackgroundRead hc mc sc bc := by
  intro place first
  obtain rfl : place = 46 := first.unique (standsFirst_free hc mc sc bc free)
  obtain ⟨rest, behindName⟩ := drop_chars hc mc sc bc colourNames_bc
  exact (congrArg colourOf behindName).trans (colourOf_append bc rest)

variable [Board]

/-- The colours that a request finds are set. -/
theorem clockColourRequest_leds (request : Request) {hc mc sc bc : Colour}
    (readHc : coloursOf request.tmp request.url 0 = some hc)
    (readMc : coloursOf request.tmp request.url 1 = some mc)
    (readSc : coloursOf request.tmp request.url 2 = some sc)
    (readBc : coloursOf request.tmp request.url 3 = some bc) :
    (clockColourRequest request device).leds.hc = hc ∧
      (clockColourRequest request device).leds.mc = mc ∧
      (clockColourRequest request device).leds.sc = sc ∧
      (clockColourRequest request device).leds.bc = bc := by
  have settings := settings_clockColourRequest request device
  rw [clockColourChange, readHc, readMc, readSc, readBc] at settings
  exact ⟨congrArg Settings.hc settings, congrArg Settings.mc settings,
    congrArg Settings.sc settings, congrArg Settings.bc settings⟩

/-- The device after the request of the form. -/
def clockColoursSent : Device :=
  (homePage ⟨clockColourUrl hc mc sc bc ++ 0 :: behind, tmp, transferred⟩ device).1

/-- **What the request sets**: three colours read in their places, and one where `bc` stands first.
-/
theorem clockColoursSent_eq : ∃ place ≤ 46,
    StandsFirst (ascii "bc") (clockColourUrl hc mc sc bc) place ∧
      (clockColoursSent hc mc sc bc behind tmp transferred device).leds.hc =
        readColour tmp ((clockColourUrl hc mc sc bc).drop 19) ∧
      (clockColoursSent hc mc sc bc behind tmp transferred device).leds.mc =
        readColour tmp ((clockColourUrl hc mc sc bc).drop 29) ∧
      (clockColoursSent hc mc sc bc behind tmp transferred device).leds.sc =
        readColour tmp ((clockColourUrl hc mc sc bc).drop 39) ∧
      (clockColoursSent hc mc sc bc behind tmp transferred device).leds.bc =
        readColour tmp ((clockColourUrl hc mc sc bc).drop (place + 3)) := by
  have asked : begins "/setclockcolour?" (clockColourUrl hc mc sc bc ++ 0 :: behind) = true := by
    rw [clockColourUrl, List.append_assoc]
    exact begins_append (by decide) _
  have letters : ∀ (index : Nat) (name : String) (i : Nat), colourNames[index]? = some name →
      firstAt (clockColourUrl hc mc sc bc ++ 0 :: behind) name 6 44 = some i → i ≤ 46 →
      coloursOf tmp (clockColourUrl hc mc sc bc ++ 0 :: behind) index =
        some (readColour tmp ((clockColourUrl hc mc sc bc).drop (i + 3))) := by
    intro index name i isName found inTime
    have position : clockColourPosition (clockColourUrl hc mc sc bc ++ 0 :: behind) index =
        some i := by
      refine (positions_eq apart_colourNames 6 50 index).trans ?_
      rw [List.getD_eq_getElem?_getD, List.getElem?_map, isName]
      exact found
    rw [coloursOf, position, Option.map_some, colourAt_eq (plain_clockColourUrl hc mc sc bc)
      (by rw [length_clockColourUrl]; omega)]
  obtain ⟨place, inTime, found, first⟩ := firstAt_bc hc mc sc bc behind
  have hcRead := letters 0 "hc" 16 rfl (firstAt_hc hc mc sc bc behind) (by decide)
  have mcRead := letters 1 "mc" 26 rfl (firstAt_mc hc mc sc bc behind) (by decide)
  have scRead := letters 2 "sc" 36 rfl (firstAt_sc hc mc sc bc behind) (by decide)
  have bcRead := letters 3 "bc" place rfl found inTime
  have sent := @homePage_clockColour _
    ⟨clockColourUrl hc mc sc bc ++ 0 :: behind, tmp, transferred⟩ device asked
  rw [clockColoursSent, sent]
  exact ⟨place, inTime, first, clockColourRequest_leds device _ hcRead mcRead scRead bcRead⟩

/-- The four colours are set exactly if no digit stands in the scratch buffer and the background is
read where it is meant to be, or somewhere that happens to write the same; or if all is zero. -/
theorem setsColours_iff :
    SetsColours hc mc sc bc (clockColoursSent hc mc sc bc behind tmp transferred device).leds ↔
      leading (tmp.drop 2) = [] ∧ BackgroundRead hc mc sc bc ∨
        (∀ colour ∈ [hc, mc, sc, bc], colour.colour = ⟨0, 0, 0⟩) ∧
          digits 16 0 (tmp.drop 2) = 0 := by
  obtain ⟨place, -, first, setHc, setMc, setSc, setBc⟩ :=
    clockColoursSent_eq hc mc sc bc behind tmp transferred device
  have readHc : readColour tmp ((clockColourUrl hc mc sc bc).drop 19) = hc.colour ↔ _ :=
    readColour_place hc mc sc bc tmp colourNames_hc rfl
  have readMc : readColour tmp ((clockColourUrl hc mc sc bc).drop 29) = mc.colour ↔ _ :=
    readColour_place hc mc sc bc tmp colourNames_mc rfl
  have readSc : readColour tmp ((clockColourUrl hc mc sc bc).drop 39) = sc.colour ↔ _ :=
    readColour_place hc mc sc bc tmp colourNames_sc rfl
  have readBc : readColour tmp ((clockColourUrl hc mc sc bc).drop 49) = bc.colour ↔ _ :=
    readColour_place hc mc sc bc tmp colourNames_bc rfl
  have freeOf : hc.colour = ⟨0, 0, 0⟩ → mc.colour = ⟨0, 0, 0⟩ → sc.colour = ⟨0, 0, 0⟩ →
      ∀ colour ∈ [hc, mc, sc], ¬ ascii "bc" <:+: colour.chars := by
    intro blackHc blackMc blackSc
    simp only [List.forall_mem_cons]
    exact ⟨free_of_black blackHc, free_of_black blackMc, free_of_black blackSc,
      fun _ none => nomatch none⟩
  rw [SetsColours, holds_iff, holds_iff, holds_iff, holds_iff, setHc, setMc, setSc, setBc, readHc,
    readMc, readSc]
  simp only [List.forall_mem_cons]
  by_cases clean : leading (tmp.drop 2) = []
  · rw [readColour_clean clean]
    simp only [clean, true_or, true_and]
    constructor
    · exact fun read => .inl fun other first' => first'.unique first ▸ read
    · rintro (read | ⟨⟨blackHc, blackMc, blackSc, -⟩, -⟩)
      · exact read place first
      · exact backgroundRead_free hc mc sc bc (freeOf blackHc blackMc blackSc) place first
  · simp only [clean, false_or, false_and] at readBc ⊢
    constructor
    · rintro ⟨⟨blackHc, zeros⟩, ⟨blackMc, -⟩, ⟨blackSc, -⟩, read⟩
      obtain rfl : place = 46 :=
        first.unique (standsFirst_free hc mc sc bc (freeOf blackHc blackMc blackSc))
      exact ⟨⟨blackHc, blackMc, blackSc, (readBc.mp read).1, fun _ none => nomatch none⟩, zeros⟩
    · rintro ⟨⟨blackHc, blackMc, blackSc, blackBc, -⟩, zeros⟩
      obtain rfl : place = 46 :=
        first.unique (standsFirst_free hc mc sc bc (freeOf blackHc blackMc blackSc))
      exact ⟨⟨blackHc, zeros⟩, ⟨blackMc, zeros⟩, ⟨blackSc, zeros⟩, readBc.mpr ⟨blackBc, zeros⟩⟩

/-! ### One colour -/

/-- The colour that a request finds is set. -/
theorem allColourRequest_leds (request : Request) {i : Nat}
    (found : allColourPosition request.url = some i) :
    (allColourRequest request device).leds.bc = colourAt request.tmp request.url i := by
  have settings := settings_allColourRequest request device
  rw [found, Option.elim_some] at settings
  exact congrArg Settings.bc settings

/-- The device after the request for one colour. -/
def allColourSent : Device :=
  (homePage ⟨allColourUrl bc ++ 0 :: behind, tmp, transferred⟩ device).1

/-- **The one colour** is read in its place. -/
theorem allColourSent_eq :
    (allColourSent bc behind tmp transferred device).leds.bc = readColour tmp (bc.chars ++ []) := by
  have split : allColourUrl bc ++ 0 :: behind = ascii "/setal" ++
      (ascii "lcolour?" ++ (ascii "bc=" ++ (bc.chars ++ 0 :: behind))) := by
    rw [allColourUrl, List.append_assoc]
    rfl
  have asked : begins "/setallcolour?" (allColourUrl bc ++ 0 :: behind) = true := by
    rw [allColourUrl, List.append_assoc]
    exact begins_append (by decide) _
  have here : begins "bc" (ascii "bc=" ++ (bc.chars ++ 0 :: behind)) = true :=
    begins_append (by decide) _
  have found : allColourPosition (allColourUrl bc ++ 0 :: behind) = some 14 := by
    refine (positions_eq (List.pairwise_singleton _ _) 6 50 0).trans ?_
    rw [split]
    exact firstAt_behind (absent_of_test (by decide +kernel)) here (by decide)
  have isPlain : ∀ c ∈ allColourUrl bc, plain c = true := by
    rw [allColourUrl, List.forall_mem_append]
    exact ⟨List.all_eq_true.mp (by decide), fun c member => plain_of_isxdigit c (bc.hex c member)⟩
  have long : (allColourUrl bc).length = 23 := by
    rw [allColourUrl, List.length_append, bc.six]
    rfl
  have digits : (allColourUrl bc).drop 17 = bc.chars ++ [] := by
    have front : 17 = (ascii "/setallcolour?bc=").length := by decide
    rw [allColourUrl, List.append_nil, front, List.drop_left]
  have set := allColourRequest_leds device ⟨allColourUrl bc ++ 0 :: behind, tmp, transferred⟩ found
  have read := @colourAt_eq tmp (allColourUrl bc) isPlain 14 (long.symm ▸ (by decide)) behind
  have sent := @homePage_allColour _ ⟨allColourUrl bc ++ 0 :: behind, tmp, transferred⟩ device asked
  rw [allColourSent, sent, set, read, digits]

/-- **The colours are set** exactly if no digit stands in the third byte of the scratch buffer and,
for the four colours, the characters behind the first `bc` write the background. There is one more
case: all colours are black, and the digits in the scratch buffer are zeros. -/
theorem colours_iff :
    (SetsColours hc mc sc bc (clockColoursSent hc mc sc bc behind tmp transferred device).leds ↔
      leading (tmp.drop 2) = [] ∧ BackgroundRead hc mc sc bc ∨
        (∀ colour ∈ [hc, mc, sc, bc], colour.colour = ⟨0, 0, 0⟩) ∧
          digits 16 0 (tmp.drop 2) = 0) ∧
    (Holds (allColourSent bc behind tmp transferred device).leds.bc bc ↔
      leading (tmp.drop 2) = [] ∨ bc.colour = ⟨0, 0, 0⟩ ∧ digits 16 0 (tmp.drop 2) = 0) := by
  refine ⟨setsColours_iff hc mc sc bc behind tmp transferred device, ?_⟩
  rw [holds_iff, allColourSent_eq]
  exact readColour_iff bc []

/-- Where `bc` stands in no digits before its own place, an empty scratch buffer is enough. -/
theorem setsColours_free (clean : leading (tmp.drop 2) = [])
    (free : ∀ colour ∈ [hc, mc, sc], ¬ ascii "bc" <:+: colour.chars) :
    SetsColours hc mc sc bc (clockColoursSent hc mc sc bc behind tmp transferred device).leds :=
  (setsColours_iff hc mc sc bc behind tmp transferred device).mpr
    (.inl ⟨clean, backgroundRead_free hc mc sc bc free⟩)

end

section

attribute [local instance] Board.plain

/-- White. -/
def white : HexColour := ⟨ascii "ffffff", by decide, List.all_eq_true.mp (by decide)⟩

/-- A colour whose digits hold the name of the background. -/
def blueish : HexColour := ⟨ascii "00bc00", by decide, List.all_eq_true.mp (by decide)⟩

/-- **White is not set** when a digit stands in the scratch buffer, nor the background when its name
stands in another colour. -/
theorem colours_fail :
    ¬ Holds (allColourSent white [] [0, 0, 49] true started).leds.bc white ∧
      ¬ SetsColours blueish white white white
        (clockColoursSent blueish white white white [] [] true started).leds := by
  refine ⟨fun holds => ?_, fun sets => ?_⟩
  · rw [holds_iff, allColourSent_eq] at holds
    exact absurd holds (by decide +kernel)
  · obtain ⟨-, read⟩ | ⟨black, -⟩ :=
      (setsColours_iff blueish white white white [] [] true started).mp sets
    · have first : StandsFirst (ascii "bc") (clockColourUrl blueish white white white) 21 :=
        ⟨by decide +kernel, by decide +kernel⟩
      exact absurd (read 21 first) (by decide +kernel)
    · exact absurd (black white (List.mem_cons_of_mem _ List.mem_cons_self)) (by decide +kernel)

end

end EquinoxClock.Web
