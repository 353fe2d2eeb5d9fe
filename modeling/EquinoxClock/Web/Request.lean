/-
What a request asks for: the scans of `home_page` over the URL.

A request is recognised by how its URL begins. Its values are found by looking, at one position
after the other, for the names of the fields not found yet; behind the name and a character stands
the number. The URL is given as the memory from its first character on, as the scans run past its
end, and so is the scratch buffer `tmp`, of which the code sets the first two bytes only.
-/

import EquinoxClock.Led.Leds
import EquinoxClock.Lib.CString
import EquinoxClock.Rtc.Clock

namespace EquinoxClock.Web

open EquinoxClock.Led EquinoxClock.Lib EquinoxClock.Rtc

/-- `strncmp(URL, text, n) == 0`, with `n` the length of the text. -/
def begins (text : String) (url : List UInt8) : Bool :=
  strncmp (ascii text).length url (ascii text) == 0

/-- The names of fields, each with the position where it was found. -/
abbrev Keys := List (String × Option Nat)

/-- The body of a scan: the first name that is not found yet and stands at position `i` is found. -/
def noteKey (url : List UInt8) (i : Nat) : Keys → Keys
  | [] => []
  | (key, some found) :: keys => (key, some found) :: noteKey url i keys
  | (key, none) :: keys =>
      if begins key (url.drop i) then (key, some i) :: keys else (key, none) :: noteKey url i keys

/-- `for (i = ...; i < ...; i++)`, until all names are found. -/
def scanKeys (url : List UInt8) : (count i : Nat) → Keys → Keys
  | 0, _, keys => keys
  | count + 1, i, keys =>
      let keys := noteKey url i keys
      if keys.all fun key => key.2.isSome then keys else scanKeys url count (i + 1) keys

/-- The positions of the fields, in the order in which the body of the scan looks for them; the scan
goes from `start` up to `stop`. -/
def positions (url : List UInt8) (start stop : Nat) (names : List String) (index : Nat) :
    Option Nat :=
  ((scanKeys url (stop - start) start (names.map fun name => (name, none))).map Prod.snd).getD
    index none

/-- `strtoul(URL+i+skip, NULL, 10)` for a field found at `i`; zero for one that was not found. -/
def numberAt (url : List UInt8) (skip : Nat) : Option Nat → Nat
  | some i => strtoul (url.drop (i + skip)) 10
  | none => 0

/-- The loop of `/raw?`: a number that was read as zero is looked for again. -/
def scanRaw (url : List UInt8) : (count i l h : Nat) → Nat × Nat
  | 0, _, l, h => (l, h)
  | count + 1, i, l, h =>
      let (l, h) :=
        if h = 0 ∧ begins "h" (url.drop i) then (l, strtoul (url.drop (i + 3)) 10)
        else if l = 0 ∧ begins "l" (url.drop i) then (strtoul (url.drop (i + 2)) 10, h)
        else (l, h)
      if l ≠ 0 ∧ h ≠ 0 then (l, h) else scanRaw url count (i + 1) l h

/-- The light and the hue of `/raw?`. -/
def rawValues (url : List UInt8) : Nat × Nat := scanRaw url (20 - 5) 5 0 0

/-- The arguments of `/date?`. -/
def dateValues (url : List UInt8) : TimeArgs :=
  let found := positions url 6 100 ["dom", "month", "yy", "hh", "mm", "ss", "st"]
  { dom := numberAt url 4 (found 0) % 2 ^ 8
    month := numberAt url 6 (found 1) % 2 ^ 8
    year := numberAt url 3 (found 2) % 2 ^ 16
    hh := numberAt url 3 (found 3) % 2 ^ 8
    mm := numberAt url 3 (found 4) % 2 ^ 8
    ss := numberAt url 3 (found 5) % 2 ^ 8
    st := numberAt url 3 (found 6) % 2 ^ 8 }

/-- The Unix time of `/unix?`. -/
def unixValue (url : List UInt8) : Nat := numberAt url 4 (positions url 6 100 ["uni"] 0)

/-- The number, the delay and the brightness of `/LED?`. -/
def ledValues (url : List UInt8) : UInt8 × Nat × UInt8 :=
  let found := positions url 5 100 ["no", "delay", "bri"]
  (UInt8.ofNat (numberAt url 3 (found 0)), numberAt url 6 (found 1) % 2 ^ 16,
    UInt8.ofNat (numberAt url 4 (found 2)))

/-- `strncpy(tmp, URL+i, 2)` and `strtoul(tmp, NULL, 16)`. Every call sets the first two bytes of
`tmp`, and no call changes the others. -/
def hexPair (tmp url : List UInt8) (i : Nat) : Nat := strtoul (strncpy tmp (url.drop i) 2) 16

/-- The colour behind a name found at `i`. -/
def colourAt (tmp url : List UInt8) (i : Nat) : Colour :=
  ⟨hexPair tmp url (i + 3), hexPair tmp url (i + 5), hexPair tmp url (i + 7)⟩

/-- Where `/setallcolour?` finds its colour. -/
def allColourPosition (url : List UInt8) : Option Nat := positions url 6 50 ["bc"] 0

/-- Where `/setclockcolour?` finds the colours of the hours, the minutes, the seconds and the
background. -/
def clockColourPosition (url : List UInt8) (index : Nat) : Option Nat :=
  positions url 6 50 ["hc", "mc", "sc", "bc"] index

/-! ### How requests begin -/

/-- Both texts are without zeros, and neither begins the other. -/
def differ (text other : List UInt8) : Bool :=
  (text.all (· != 0) && other.all (· != 0)) && (!text.isPrefixOf other && !other.isPrefixOf text)

/-- Both texts are without zeros, and the second begins the first. -/
def startsWith (text front : List UInt8) : Bool :=
  (text.all (· != 0) && front.all (· != 0)) && front.isPrefixOf text

/-- A text without zeros begins a URL exactly if it is a prefix of it. -/
theorem begins_iff {text : String} (noNul : (ascii text).all (· != 0) = true) (url : List UInt8) :
    begins text url = true ↔ ascii text <+: url := by
  rw [begins, beq_iff_eq, strncmp_length_eq_zero (noNul_of_all noNul)]

/-- A URL that begins with one text does not begin with one that differs from it. -/
theorem begins_other {text other : String} {url : List UInt8} (begun : begins text url = true)
    (differs : differ (ascii text) (ascii other) = true) : begins other url = false := by
  simp only [differ, Bool.and_eq_true, Bool.not_eq_true', ← Bool.not_eq_true,
    List.isPrefixOf_iff_prefix] at differs
  obtain ⟨⟨noNul, noNul'⟩, notFront, notFront'⟩ := differs
  rw [← Bool.not_eq_true, begins_iff noNul']
  intro begun'
  obtain front | front := List.prefix_or_prefix_of_prefix ((begins_iff noNul url).mp begun) begun'
  · exact notFront front
  · exact notFront' front

/-- What begins a URL begins it with each of its own beginnings. -/
theorem begins_front {text front : String} {url : List UInt8} (begun : begins text url = true)
    (starts : startsWith (ascii text) (ascii front) = true) : begins front url = true := by
  simp only [startsWith, Bool.and_eq_true, List.isPrefixOf_iff_prefix] at starts
  obtain ⟨⟨noNul, noNul'⟩, front⟩ := starts
  exact (begins_iff noNul' url).mpr (front.trans ((begins_iff noNul url).mp begun))

/-- What begins a piece begins every URL that begins with the piece. -/
theorem begins_append {text : String} {piece : List UInt8}
    (starts : startsWith piece (ascii text) = true) (rest : List UInt8) :
    begins text (piece ++ rest) = true := by
  simp only [startsWith, Bool.and_eq_true, List.isPrefixOf_iff_prefix] at starts
  obtain ⟨⟨-, noNul⟩, front⟩ := starts
  exact (begins_iff noNul _).mpr (front.trans (List.prefix_append piece rest))

end EquinoxClock.Web
