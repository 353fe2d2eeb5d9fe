/-
What the scans of `home_page` read of the URL.

The scans go on to a fixed position unless they have found all their names, and behind a name they
read on at a fixed distance; nobody looks for the end of the URL. `scanReads` and `rawReads` list
the places that are read, along the scans of `Request`. A scan stays inside the URL exactly if it
finds its names there, each with its number or its colour (`scanReads_inside`, `rawReads_inside`);
`queryReads_inside` puts the requests together.
-/

import EquinoxClock.Lib.Reads
import EquinoxClock.Web.Raw
import EquinoxClock.Web.Scan

namespace EquinoxClock.Web

open EquinoxClock.Lib

/-- The places a comparison with a name reads. -/
def nameReads (url : List UInt8) (name : String) (i : Nat) : List Nat :=
  List.range' i (strncmpReads (ascii name).length (url.drop i) (ascii name))

/-- The places `strtoul(URL+i, NULL, 10)` reads. -/
def numberReads (url : List UInt8) (i : Nat) : List Nat :=
  List.range' i (strtoulReads (url.drop i))

/-- The places `strncpy(tmp, URL+i, 2)` reads. -/
def pairReads (url : List UInt8) (i : Nat) : List Nat :=
  List.range' i (strncpyReads 2 (url.drop i))

/-- The places read of a colour behind a name found at `i`. -/
def colourReads (url : List UInt8) (i : Nat) : List Nat :=
  pairReads url (i + 3) ++ pairReads url (i + 5) ++ pairReads url (i + 7)

/-- The places the body of a scan reads: those of the comparisons, and of the value behind a name. -/
def noteReads (url : List UInt8) (value : String → Nat → List Nat) (i : Nat) : Keys → List Nat
  | [] => []
  | (_, some _) :: keys => noteReads url value i keys
  | (key, none) :: keys =>
      nameReads url key i ++
        if begins key (url.drop i) then value key i else noteReads url value i keys

/-- The places a scan reads. -/
def scanReads (url : List UInt8) (value : String → Nat → List Nat) :
    (count i : Nat) → Keys → List Nat
  | 0, _, _ => []
  | count + 1, i, keys =>
      noteReads url value i keys ++
        let keys := noteKey url i keys
        if keys.all fun key => key.2.isSome then [] else scanReads url value count (i + 1) keys

/-- The places the scan from `start` up to `stop` reads. -/
def positionsReads (url : List UInt8) (value : String → Nat → List Nat) (start stop : Nat)
    (names : List String) : List Nat :=
  scanReads url value (stop - start) start (names.map fun name => (name, none))

/-- The places the loop of `/raw?` reads. -/
def rawReads (url : List UInt8) : (count i l h : Nat) → List Nat
  | 0, _, _, _ => []
  | count + 1, i, l, h =>
      let forH := if h = 0 then nameReads url "h" i else []
      let forL := if l = 0 then nameReads url "l" i else []
      let (read, l, h) :=
        if h = 0 ∧ begins "h" (url.drop i) then
          (forH ++ numberReads url (i + 3), l, strtoul (url.drop (i + 3)) 10)
        else if l = 0 ∧ begins "l" (url.drop i) then
          (forH ++ forL ++ numberReads url (i + 2), strtoul (url.drop (i + 2)) 10, h)
        else (forH ++ forL, l, h)
      read ++ if l ≠ 0 ∧ h ≠ 0 then [] else rawReads url count (i + 1) l h

/-- How far behind the start of a name its number begins: behind the name and a character. -/
def numberSkip : String → Nat
  | "dom" => 4
  | "month" => 6
  | "uni" => 4
  | "delay" => 6
  | "bri" => 4
  | _ => 3

/-- The numbers behind names. -/
def numbersReads (url : List UInt8) (name : String) (i : Nat) : List Nat :=
  numberReads url (i + numberSkip name)

/-- The places the scan of a request reads. -/
def queryReads (url : List UInt8) : List Nat :=
  if begins "/raw?" url then rawReads url (20 - 5) 5 0 0
  else if begins "/date?" url then
    positionsReads url (numbersReads url) 6 100 ["dom", "month", "yy", "hh", "mm", "ss", "st"]
  else if begins "/unix?" url then positionsReads url (numbersReads url) 6 100 ["uni"]
  else if begins "/LED?" url then
    positionsReads url (numbersReads url) 5 100 ["no", "delay", "bri"]
  else if begins "/setallcolour?" url then
    positionsReads url (fun _ => colourReads url) 6 50 ["bc"]
  else if begins "/setclockcolour?" url then
    positionsReads url (fun _ => colourReads url) 6 50 ["hc", "mc", "sc", "bc"]
  else []

/-! ### Scans for names -/

/-- The names are found in the URL, each with all that is read behind it. -/
structure ScanFits (line : List UInt8) (need : String → Nat) (start stop : Nat)
    (names : List String) : Prop where
  behind : ∀ name ∈ names, ∀ i, firstAt line name start (stop - start) = some i →
    i + need name ≤ line.length
  all : stop ≤ line.length + 1 ∨
    ∀ name ∈ names, (firstAt line name start (stop - start)).isSome = true

/-- The names that are not found yet. -/
def Open (keys : Keys) (name : String) : Prop := (name, none) ∈ keys

/-- What is left of a scan fits in the URL. -/
structure KeysFit (line : List UInt8) (need : String → Nat) (count i : Nat) (keys : Keys) :
    Prop where
  behind : ∀ name, Open keys name → ∀ place, firstAt line name i count = some place →
    place + need name ≤ line.length
  all : i + count ≤ line.length + 1 ∨
    ∀ name, Open keys name → (firstAt line name i count).isSome = true

/-- Names of fields: none is empty, none has a zero, and none begins another. -/
structure FieldNames (names : List String) : Prop where
  noNul : ∀ name ∈ names, (ascii name).all (· != 0) = true
  some_ : ∀ name ∈ names, 0 < (ascii name).length
  apart : Apart names

theorem open_found (name : String) (place : Nat) (keys : Keys) (other : String) :
    Open ((name, some place) :: keys) other ↔ Open keys other := by
  rw [Open, List.mem_cons, Prod.mk.injEq]
  exact or_iff_right fun both => nomatch both.2

theorem open_cons (name : String) (keys : Keys) (other : String) :
    Open ((name, none) :: keys) other ↔ other = name ∨ Open keys other := by
  rw [Open, List.mem_cons, Prod.mk.injEq]
  exact or_congr_left (and_iff_left rfl)

theorem FieldNames.tail {name : String} {names : List String} (all : FieldNames (name :: names)) :
    FieldNames names where
  noNul other member := all.noNul other (List.mem_cons_of_mem name member)
  some_ other member := all.some_ other (List.mem_cons_of_mem name member)
  apart := (List.pairwise_cons.mp all.apart).2

theorem mem_of_open {keys : Keys} {name : String} (isOpen : Open keys name) :
    name ∈ keys.map Prod.fst := List.mem_map_of_mem isOpen

section Scan

variable {line behind : List UInt8} {value : String → Nat → List Nat} {need : String → Nat}

theorem nameReads_inside {name : String} (some_ : 0 < (ascii name).length) (i : Nat) :
    (∀ place ∈ nameReads (line ++ 0 :: behind) name i, place ≤ line.length) ↔ i ≤ line.length :=
  readsString_inside (readsString_strncmp some_ (ascii name)) line behind i

/-- The place itself is compared. -/
theorem mem_nameReads {name : String} (some_ : 0 < (ascii name).length) (url : List UInt8) (i : Nat) :
    i ∈ nameReads url name i :=
  List.mem_range'_1.mpr ⟨le_rfl, Nat.lt_add_of_pos_right
    ((readsString_strncmp some_ (ascii name)).first _)⟩

theorem numberReads_inside (i : Nat) :
    (∀ place ∈ numberReads (line ++ 0 :: behind) i, place ≤ line.length) ↔ i ≤ line.length :=
  readsString_inside readsString_strtoul line behind i

theorem colourReads_inside (i : Nat) :
    (∀ place ∈ colourReads (line ++ 0 :: behind) i, place ≤ line.length) ↔ i + 7 ≤ line.length := by
  have pair := readsString_inside (readsString_strncpy (show 0 < 2 by decide)) line behind
  rw [colourReads, List.forall_mem_append, List.forall_mem_append]
  refine (and_congr (and_congr (pair (i + 3)) (pair (i + 5))) (pair (i + 7))).trans ?_
  omega

theorem firstAt_outside {name : String} (some_ : 0 < (ascii name).length)
    (noNul : (ascii name).all (· != 0) = true) {i : Nat} (outside : line.length ≤ i) (count : Nat) :
    firstAt line name i count = none := by
  refine List.find?_eq_none.mpr fun place member => ?_
  have late := (List.mem_range'_1.mp member).1
  rw [List.drop_eq_nil_of_le (outside.trans late), begins_iff noNul, List.prefix_nil]
  exact fun empty => absurd (congrArg List.length empty) some_.ne'

/-- At a place of the URL, only what is read behind a name can lie outside. -/
theorem noteReads_inside (values : ∀ name i,
      (∀ place ∈ value name i, place ≤ line.length) ↔ i + need name ≤ line.length)
    {i : Nat} (within : i ≤ line.length) {keys : Keys} (names : FieldNames (keys.map Prod.fst)) :
    (∀ place ∈ noteReads (line ++ 0 :: behind) value i keys, place ≤ line.length) ↔
      ∀ name, Open keys name → begins name (line.drop i) = true → i + need name ≤ line.length := by
  induction keys with
  | nil => exact iff_of_true (fun _ none => nomatch none) fun _ none => nomatch none
  | cons key keys ih =>
      obtain ⟨name, found⟩ := key
      have later := ih names.tail
      cases found with
      | some place => simpa only [noteReads, open_found] using later
      | none =>
          have compared := (@nameReads_inside line behind name
            (names.some_ name List.mem_cons_self) i).mpr within
          have same := begins_terminated (names.noNul name List.mem_cons_self) within behind
          simp only [noteReads, open_cons, forall_eq_or_imp, List.forall_mem_append, same]
          rw [and_iff_right compared]
          by_cases here : begins name (line.drop i) = true
          · have others : ∀ other, Open keys other → begins other (line.drop i) = true →
                i + need other ≤ line.length := by
              intro other isOpen begun
              have apart := (List.pairwise_cons.mp names.apart).1 other (mem_of_open isOpen)
              rw [begins_other here apart] at begun
              exact nomatch begun
            rw [if_pos here, values]
            exact ⟨fun fits => ⟨fun _ => fits, others⟩, fun both => both.1 here⟩
          · rw [if_neg here, later]
            exact (and_iff_right fun begun => absurd begun here).symm

/-- A name that is not found yet is compared with the place. -/
theorem mem_noteReads {i : Nat} {url : List UInt8} {keys : Keys} {name : String}
    (isOpen : Open keys name) (some_ : ∀ other ∈ keys.map Prod.fst, 0 < (ascii other).length) :
    i ∈ noteReads url value i keys := by
  induction keys with
  | nil => exact nomatch isOpen
  | cons key keys ih =>
      obtain ⟨other, found⟩ := key
      cases found with
      | some place =>
          rw [open_found] at isOpen
          exact ih isOpen fun name member => some_ name (List.mem_cons_of_mem other member)
      | none =>
          exact List.mem_append_left _ (mem_nameReads (some_ other List.mem_cons_self) url i)

theorem all_found_iff (keys : Keys) :
    (keys.all fun key => key.2.isSome) = true ↔ ∀ name, ¬ Open keys name := by
  rw [List.all_eq_true]
  constructor
  · exact fun found name isOpen => nomatch found _ isOpen
  · rintro none_ ⟨name, _ | place⟩ member
    · exact absurd member (none_ name)
    · rfl

/-- When all names are found, nothing more is read. -/
theorem scanReads_found {url : List UInt8} {keys : Keys} (found : ∀ name, ¬ Open keys name)
    (count i : Nat) : scanReads url value count i keys = [] := by
  have nothing : noteReads url value i keys = [] ∧ noteKey url i keys = keys := by
    induction keys with
    | nil => exact ⟨rfl, rfl⟩
    | cons key keys ih =>
        obtain ⟨name, _ | place⟩ := key
        · exact absurd List.mem_cons_self (found name)
        · obtain ⟨reads, same⟩ := ih fun other isOpen => found other (List.mem_cons_of_mem _ isOpen)
          rw [noteReads, noteKey, reads, same]
          exact ⟨rfl, rfl⟩
  cases count with
  | zero => rfl
  | succ count => rw [scanReads, nothing.1, nothing.2, if_pos ((all_found_iff keys).mpr found)]; rfl

theorem scanReads_succ (url : List UInt8) (count i : Nat) (keys : Keys) :
    scanReads url value (count + 1) i keys =
      noteReads url value i keys ++ scanReads url value count (i + 1) (noteKey url i keys) := by
  rw [scanReads]
  dsimp only
  split_ifs with found
  · rw [scanReads_found ((all_found_iff _).mp found)]
  · rfl

/-- What is not found at a place stays open. -/
theorem open_noteKey {i : Nat} {url : List UInt8} {keys : Keys} (apart : Apart (keys.map Prod.fst))
    (name : String) : Open (noteKey url i keys) name ↔
      Open keys name ∧ begins name (url.drop i) = false := by
  rw [Open, noteKey_eq i apart, List.mem_map]
  constructor
  · rintro ⟨⟨other, _ | place⟩, member, same⟩
    · obtain ⟨rfl, notHere⟩ := Prod.mk.inj same
      refine ⟨member, Bool.eq_false_iff.mpr fun here => ?_⟩
      rw [if_pos here] at notHere
      exact nomatch notHere
    · exact nomatch (Prod.mk.inj same).2
  · rintro ⟨isOpen, notHere⟩
    exact ⟨(name, none), isOpen, noted_same (.inr notHere)⟩

theorem names_noteKey {i : Nat} {url : List UInt8} {keys : Keys}
    (names : FieldNames (keys.map Prod.fst)) : FieldNames ((noteKey url i keys).map Prod.fst) := by
  rwa [noteKey_eq i names.apart, map_fst_noted]

/-- One place of a scan, inside the URL. -/
theorem keysFit_succ {count i : Nat} (within : i ≤ line.length) {keys : Keys}
    (names : FieldNames (keys.map Prod.fst)) : KeysFit line need (count + 1) i keys ↔
      (∀ name, Open keys name → begins name (line.drop i) = true → i + need name ≤ line.length) ∧
        KeysFit line need count (i + 1) (noteKey (line ++ 0 :: behind) i keys) := by
  have stays : ∀ name, Open (noteKey (line ++ 0 :: behind) i keys) name ↔
      Open keys name ∧ ¬ begins name (line.drop i) = true := by
    intro name
    rw [open_noteKey names.apart, Bool.not_eq_true]
    refine and_congr_right fun isOpen => ?_
    rw [begins_terminated (names.noNul name (mem_of_open isOpen)) within]
  constructor
  · intro fits
    refine ⟨fun name isOpen here => fits.behind name isOpen i ?_, fun name isOpen place found => ?_,
      ?_⟩
    · rw [firstAt_succ, if_pos here]
    · obtain ⟨isOpen, notHere⟩ := (stays name).mp isOpen
      refine fits.behind name isOpen place ?_
      rwa [firstAt_succ, if_neg notHere]
    · refine fits.all.imp (fun ends => by omega) fun all name isOpen => ?_
      obtain ⟨isOpen, notHere⟩ := (stays name).mp isOpen
      have found := all name isOpen
      rwa [firstAt_succ, if_neg notHere] at found
  · rintro ⟨here, later⟩
    refine ⟨fun name isOpen place found => ?_, ?_⟩
    · rw [firstAt_succ] at found
      split_ifs at found with begun
      · obtain rfl := Option.some.inj found
        exact here name isOpen begun
      · exact later.behind name ((stays name).mpr ⟨isOpen, begun⟩) place found
    · refine later.all.imp (fun ends => by omega) fun all name isOpen => ?_
      rw [firstAt_succ]
      split_ifs with begun
      · rfl
      · exact all name ((stays name).mpr ⟨isOpen, begun⟩)

/-- **A scan stays inside the URL** exactly if it finds its names there, with what is read behind
them, or comes to its end before that of the URL. -/
theorem scanReads_inside (values : ∀ name i,
      (∀ place ∈ value name i, place ≤ line.length) ↔ i + need name ≤ line.length)
    (count : Nat) {i : Nat} (within : i ≤ line.length + 1) {keys : Keys}
    (names : FieldNames (keys.map Prod.fst)) :
    (∀ place ∈ scanReads (line ++ 0 :: behind) value count i keys, place ≤ line.length) ↔
      KeysFit line need count i keys := by
  induction count generalizing i keys with
  | zero =>
      exact iff_of_true (fun _ none => nomatch none)
        ⟨fun _ _ _ found => (nomatch found), .inl within⟩
  | succ count ih =>
      obtain inside | rfl := Nat.lt_succ_iff_lt_or_eq.mp (Nat.lt_succ_of_le within)
      · have inside := Nat.le_of_lt_succ inside
        rw [scanReads_succ, List.forall_mem_append, noteReads_inside values inside names,
          ih (Nat.succ_le_succ inside) (names_noteKey names), keysFit_succ inside names]
      · by_cases open_ : ∃ name, Open keys name
        · obtain ⟨name, isOpen⟩ := open_
          refine iff_of_false (fun allInside => ?_) fun fits => ?_
          · have read := @mem_noteReads value (line.length + 1) (line ++ 0 :: behind) keys name
              isOpen names.some_
            rw [scanReads_succ] at allInside
            exact absurd (allInside _ (List.mem_append_left _ read)) (Nat.not_succ_le_self _)
          · obtain ends | all := fits.all
            · omega
            · have found := all name isOpen
              have member := mem_of_open isOpen
              rw [firstAt_outside (names.some_ name member) (names.noNul name member)
                (Nat.le_succ _)] at found
              exact nomatch found
        · have none_ := not_exists.mp open_
          rw [scanReads_found none_]
          exact iff_of_true (fun _ none => nomatch none)
            ⟨fun name isOpen => absurd isOpen (none_ name),
              .inr fun name isOpen => absurd isOpen (none_ name)⟩

/-- The scan of a request. -/
theorem positionsReads_inside (values : ∀ name i,
      (∀ place ∈ value name i, place ≤ line.length) ↔ i + need name ≤ line.length)
    {start stop : Nat} (begins_ : start ≤ line.length) (ordered : start ≤ stop)
    {names : List String} (isNames : FieldNames names) :
    (∀ place ∈ positionsReads (line ++ 0 :: behind) value start stop names, place ≤ line.length) ↔
      ScanFits line need start stop names := by
  have isOpen : ∀ name, Open (names.map fun name => (name, none)) name ↔ name ∈ names := by
    intro name
    rw [Open, List.mem_map]
    constructor
    · rintro ⟨other, member, same⟩
      exact (Prod.mk.inj same).1 ▸ member
    · exact fun member => ⟨name, member, rfl⟩
  rw [positionsReads, scanReads_inside values _ (Nat.le_succ_of_le begins_) (by rwa [map_fst_fresh])]
  have ends : start + (stop - start) = stop := Nat.add_sub_cancel' ordered
  constructor
  · intro fits
    refine ⟨fun name member => fits.behind name ((isOpen name).mpr member), ?_⟩
    refine fits.all.imp (fun early => by omega) fun all name member => ?_
    exact all name ((isOpen name).mpr member)
  · intro fits
    refine ⟨fun name open_ => fits.behind name ((isOpen name).mp open_), ?_⟩
    refine fits.all.imp (fun early => by omega) fun all name open_ => ?_
    exact all name ((isOpen name).mp open_)

end Scan

/-! ### The scan for a light and a hue -/

/-- Each time the letter comes, up to the first number other than zero behind it, there is room for
a number. -/
def LetterFits (letter : UInt8) (skip count : Nat) (rest : List UInt8) : Prop :=
  ∀ j < count, rest[j]? = some letter → numberBehind letter skip j rest = 0 →
    j + skip ≤ rest.length

/-- The scan of `/raw?` has what it looks for in the URL. -/
structure RawFits (line : List UInt8) : Prop where
  light : LetterFits 108 2 15 (line.drop 5)
  hue : LetterFits 104 3 15 (line.drop 5)
  both : 20 ≤ line.length + 1 ∨
    numberBehind 108 2 15 (line.drop 5) ≠ 0 ∧ numberBehind 104 3 15 (line.drop 5) ≠ 0

section RawScan

variable {line behind : List UInt8} {letter : UInt8} {skip count : Nat}

/-- The number after a place where it may be read. -/
def numberAfter (letter : UInt8) (skip : Nat) (rest : List UInt8) (number : Nat) : Nat :=
  if number = 0 ∧ rest.headD 0 = letter then strtoul (rest.drop skip) 10 else number

theorem numberAfter_found {number : Nat} (found : number ≠ 0) (rest : List UInt8) :
    numberAfter letter skip rest number = number := if_neg fun both => found both.1

theorem numberBehind_eq_zero (rest : List UInt8) : numberBehind letter skip (count + 1) rest = 0 ↔
    numberAfter letter skip rest 0 = 0 ∧ numberBehind letter skip count rest.tail = 0 := by
  by_cases here : rest.headD 0 = letter
  · have read : numberAfter letter skip rest 0 = strtoul (rest.drop skip) 10 := if_pos ⟨rfl, here⟩
    rw [numberBehind_here here, read]
    by_cases zero : strtoul (rest.drop skip) 10 = 0
    · rw [if_pos zero]
      exact (and_iff_right zero).symm
    · rw [if_neg zero]
      exact iff_of_false zero fun both => zero both.1
  · have unread : numberAfter letter skip rest 0 = 0 := if_neg fun both => here both.2
    rw [numberBehind_other here]
    exact (and_iff_right unread).symm

/-- The search goes on with the number that is there after a place. -/
theorem numberBehind_succ (rest : List UInt8) (number : Nat) :
    (number ≠ 0 ∨ numberBehind letter skip (count + 1) rest ≠ 0) ↔
      (numberAfter letter skip rest number ≠ 0 ∨ numberBehind letter skip count rest.tail ≠ 0) := by
  by_cases found : number = 0
  · subst found
    refine (or_iff_right (not_not.mpr rfl)).trans ?_
    rw [Ne, numberBehind_eq_zero, not_and_or]
  · rw [numberAfter_found found]
    exact iff_of_true (.inl found) (.inl found)

/-- One place of the search for a number. -/
theorem letterFits_succ (nonzero : letter ≠ 0) (rest : List UInt8) (number : Nat) :
    (number = 0 → LetterFits letter skip (count + 1) rest) ↔
      (number = 0 ∧ rest.headD 0 = letter → skip ≤ rest.length) ∧
        (numberAfter letter skip rest number = 0 → LetterFits letter skip count rest.tail) := by
  by_cases found : number = 0
  · subst found
    cases rest with
    | nil =>
        exact iff_of_true (fun _ j _ here => nomatch here)
          ⟨fun both => absurd both.2.symm nonzero, fun _ j _ here => nomatch here⟩
    | cons c rest =>
        constructor
        · intro fits
          refine ⟨fun here => ?_, fun zero j early here earlier => ?_⟩
          · have room := fits rfl 0 (Nat.succ_pos count) (congrArg some here.2) rfl
            rwa [Nat.zero_add] at room
          · have room := fits rfl (j + 1) (Nat.succ_lt_succ early) here
              ((numberBehind_eq_zero (c :: rest)).mpr ⟨zero, earlier⟩)
            rw [List.length_cons] at room
            rw [List.tail_cons]
            omega
        · rintro ⟨first, later⟩ - j early here earlier
          cases j with
          | zero =>
              rw [Nat.zero_add]
              exact first ⟨rfl, Option.some.inj here⟩
          | succ j =>
              obtain ⟨zero, behind⟩ := (numberBehind_eq_zero (c :: rest)).mp earlier
              have room := later zero j (Nat.lt_of_succ_lt_succ early) here behind
              rw [List.tail_cons] at room
              rw [List.length_cons]
              omega
  · rw [numberAfter_found found]
    exact iff_of_true (fun zero => absurd zero found)
      ⟨fun both => absurd both.1 found, fun zero => absurd zero found⟩

/-- What the scan looks for in the rest of the URL is there. -/
structure SearchFits (line : List UInt8) (count i l h : Nat) : Prop where
  light : l = 0 → LetterFits 108 2 count (line.drop i)
  hue : h = 0 → LetterFits 104 3 count (line.drop i)
  both : i + count ≤ line.length + 1 ∨
    (l ≠ 0 ∨ numberBehind 108 2 count (line.drop i) ≠ 0) ∧
      (h ≠ 0 ∨ numberBehind 104 3 count (line.drop i) ≠ 0)

/-- With both numbers there, nothing more is read. -/
theorem rawReads_found {url : List UInt8} {l h : Nat} (foundL : l ≠ 0) (foundH : h ≠ 0)
    (count i : Nat) : rawReads url count i l h = [] := by
  cases count with
  | zero => rfl
  | succ count =>
      rw [rawReads, if_neg foundH, if_neg foundL, if_neg fun both => foundH both.1,
        if_neg fun both => foundL both.1]
      exact if_pos ⟨foundL, foundH⟩

/-- The places one round of the loop reads, for one letter after the other. -/
def roundReads (url : List UInt8) (i l h : Nat) : List Nat :=
  (if h = 0 then nameReads url "h" i else []) ++
    if h = 0 ∧ (url.drop i).headD 0 = 104 then numberReads url (i + 3)
    else (if l = 0 then nameReads url "l" i else []) ++
      if l = 0 ∧ (url.drop i).headD 0 = 108 then numberReads url (i + 2) else []

/-- One round of the loop: what it reads, and the numbers it goes on with. -/
theorem rawReads_succ (url : List UInt8) (i l h : Nat) : rawReads url (count + 1) i l h =
    roundReads url i l h ++ rawReads url count (i + 1) (numberAfter 108 2 (url.drop i) l)
      (numberAfter 104 3 (url.drop i) h) := by
  have goesOn : ∀ l h, (if l ≠ 0 ∧ h ≠ 0 then [] else rawReads url count (i + 1) l h) =
      rawReads url count (i + 1) l h := by
    intro l h
    split_ifs with both
    · exact (rawReads_found both.1 both.2 count (i + 1)).symm
    · rfl
  have isH := begins_letter (show ascii "h" = [104] by decide) (by decide) (url.drop i)
  have isL := begins_letter (show ascii "l" = [108] by decide) (by decide) (url.drop i)
  simp only [rawReads, roundReads, numberAfter, List.drop_drop, goesOn, isH, isL]
  by_cases readsH : h = 0 ∧ (url.drop i).headD 0 = 104
  · have notL : ¬ (l = 0 ∧ (url.drop i).headD 0 = 108) := fun both =>
      absurd (readsH.2.symm.trans both.2) (by decide)
    simp only [if_pos readsH, if_neg notL]
  · by_cases readsL : l = 0 ∧ (url.drop i).headD 0 = 108
    · simp only [if_neg readsH, if_pos readsL, List.append_assoc]
    · simp only [if_neg readsH, if_neg readsL, List.append_assoc, List.append_nil]

/-- At a place of the URL, only the digits behind a letter can lie outside. -/
theorem roundReads_inside {i : Nat} (within : i ≤ line.length) (l h : Nat) :
    (∀ place ∈ roundReads (line ++ 0 :: behind) i l h, place ≤ line.length) ↔
      (l = 0 ∧ (line.drop i).headD 0 = 108 → 2 ≤ (line.drop i).length) ∧
        (h = 0 ∧ (line.drop i).headD 0 = 104 → 3 ≤ (line.drop i).length) := by
  have sameHead : ((line ++ 0 :: behind).drop i).headD 0 = (line.drop i).headD 0 := by
    rw [List.drop_append_of_le_length within, headD_append_zero]
  have compared : ∀ (found : Nat) (name : String), 0 < (ascii name).length →
      ∀ place ∈ (if found = 0 then nameReads (line ++ 0 :: behind) name i else []),
        place ≤ line.length := by
    intro found name some_
    split_ifs
    · exact (nameReads_inside some_ i).mpr within
    · exact fun _ none => nomatch none
  have room : ∀ skip, (∀ place ∈ numberReads (line ++ 0 :: behind) (i + skip),
      place ≤ line.length) ↔ skip ≤ (line.drop i).length := by
    intro skip
    rw [numberReads_inside, List.length_drop]
    omega
  rw [roundReads, sameHead, List.forall_mem_append, and_iff_right (compared h "h" (by decide))]
  by_cases readsH : h = 0 ∧ (line.drop i).headD 0 = 104
  · have notL : ¬ (l = 0 ∧ (line.drop i).headD 0 = 108) := fun both =>
      absurd (readsH.2.symm.trans both.2) (by decide)
    rw [if_pos readsH, room]
    exact ⟨fun fits => ⟨fun both => absurd both notL, fun _ => fits⟩, fun both => both.2 readsH⟩
  · rw [if_neg readsH, List.forall_mem_append, and_iff_right (compared l "l" (by decide))]
    by_cases readsL : l = 0 ∧ (line.drop i).headD 0 = 108
    · rw [if_pos readsL, room]
      exact ⟨fun fits => ⟨fun _ => fits, fun both => absurd both readsH⟩, fun both => both.1 readsL⟩
    · rw [if_neg readsL]
      exact iff_of_true (fun _ none => nomatch none)
        ⟨fun both => absurd both readsL, fun both => absurd both readsH⟩

/-- A letter is looked for as long as a number is missing. -/
theorem mem_roundReads {url : List UInt8} {l h : Nat} (missing : ¬ (l ≠ 0 ∧ h ≠ 0)) (i : Nat) :
    i ∈ roundReads url i l h := by
  rw [roundReads]
  by_cases missingH : h = 0
  · rw [if_pos missingH]
    exact List.mem_append_left _ (@mem_nameReads "h" (by decide) url i)
  · have missingL : l = 0 := by
      by_contra foundL
      exact missing ⟨foundL, missingH⟩
    have unread : ¬ (h = 0 ∧ (url.drop i).headD 0 = 104) := fun both => missingH both.1
    rw [if_neg unread, if_pos missingL]
    exact List.mem_append_right _ (List.mem_append_left _ (@mem_nameReads "l" (by decide) url i))

/-- One place of the scan. -/
theorem searchFits_succ (i l h : Nat) : SearchFits line (count + 1) i l h ↔
    ((l = 0 ∧ (line.drop i).headD 0 = 108 → 2 ≤ (line.drop i).length) ∧
      (h = 0 ∧ (line.drop i).headD 0 = 104 → 3 ≤ (line.drop i).length)) ∧
    SearchFits line count (i + 1) (numberAfter 108 2 (line.drop i) l)
      (numberAfter 104 3 (line.drop i) h) := by
  have light := @letterFits_succ 108 2 count (by decide) (line.drop i) l
  have hue := @letterFits_succ 104 3 count (by decide) (line.drop i) h
  have lightFound := @numberBehind_succ 108 2 count (line.drop i) l
  have hueFound := @numberBehind_succ 104 3 count (line.drop i) h
  rw [List.tail_drop] at light hue lightFound hueFound
  constructor
  · intro fits
    obtain ⟨roomL, laterL⟩ := light.mp fits.light
    obtain ⟨roomH, laterH⟩ := hue.mp fits.hue
    refine ⟨⟨roomL, roomH⟩, laterL, laterH, ?_⟩
    exact fits.both.imp (fun early => by omega) (And.imp lightFound.mp hueFound.mp)
  · rintro ⟨⟨roomL, roomH⟩, fits⟩
    refine ⟨light.mpr ⟨roomL, fits.light⟩, hue.mpr ⟨roomH, fits.hue⟩, ?_⟩
    exact fits.both.imp (fun early => by omega) (And.imp lightFound.mpr hueFound.mpr)

/-- Inside the URL, a number is read as in the URL alone. -/
theorem numberAfter_terminated {i : Nat} (within : i ≤ line.length) {number : Nat}
    (room : number = 0 ∧ (line.drop i).headD 0 = letter → skip ≤ (line.drop i).length) :
    numberAfter letter skip ((line ++ 0 :: behind).drop i) number =
      numberAfter letter skip (line.drop i) number := by
  rw [numberAfter, numberAfter, List.drop_append_of_le_length within, headD_append_zero]
  refine ite_congr rfl (fun reads => ?_) fun _ => rfl
  rw [List.drop_append_of_le_length (room reads), strtoul_terminated]

/-- **The scan of `/raw?` stays inside the URL** exactly if it has what it looks for there. -/
theorem rawReads_inside (count : Nat) {i : Nat} (within : i ≤ line.length + 1) (l h : Nat) :
    (∀ place ∈ rawReads (line ++ 0 :: behind) count i l h, place ≤ line.length) ↔
      SearchFits line count i l h := by
  induction count generalizing i l h with
  | zero =>
      exact iff_of_true (fun _ none => nomatch none)
        ⟨fun _ _ early => absurd early (Nat.not_lt_zero _),
          fun _ _ early => absurd early (Nat.not_lt_zero _), .inl within⟩
  | succ count ih =>
      obtain inside | rfl := Nat.lt_succ_iff_lt_or_eq.mp (Nat.lt_succ_of_le within)
      · have inside := Nat.le_of_lt_succ inside
        rw [rawReads_succ, List.forall_mem_append, roundReads_inside inside, searchFits_succ,
          ih (Nat.succ_le_succ inside)]
        refine and_congr_right fun room => ?_
        rw [numberAfter_terminated inside room.1, numberAfter_terminated inside room.2]
      · by_cases found : l ≠ 0 ∧ h ≠ 0
        · rw [rawReads_found found.1 found.2]
          exact iff_of_true (fun _ none => nomatch none)
            ⟨fun zero => absurd zero found.1, fun zero => absurd zero found.2,
              .inr ⟨.inl found.1, .inl found.2⟩⟩
        · refine iff_of_false (fun allInside => ?_) fun fits => ?_
          · rw [rawReads_succ] at allInside
            exact absurd (allInside _ (List.mem_append_left _ (mem_roundReads found _)))
              (Nat.not_succ_le_self _)
          · obtain ends | ⟨foundL, foundH⟩ := fits.both
            · omega
            · have nothing : ∀ letter skip, letter ≠ 0 →
                  numberBehind letter skip (count + 1) (line.drop (line.length + 1)) = 0 := by
                intro letter skip nonzero
                rw [List.drop_eq_nil_of_le (Nat.le_succ _)]
                exact numberBehind_none nonzero fun _ none => by simp at none
              rw [nothing 108 2 (by decide)] at foundL
              rw [nothing 104 3 (by decide)] at foundH
              exact found ⟨foundL.resolve_right (not_not.mpr rfl),
                foundH.resolve_right (not_not.mpr rfl)⟩

end RawScan

/-! ### The requests -/

/-- The request has in the URL what its scan looks for: behind the name of a number, a character and
the place of the number, and behind the name of a colour, seven characters. -/
def QueryFits (line : List UInt8) : Prop :=
  if begins "/raw?" line then RawFits line
  else if begins "/date?" line then
    ScanFits line numberSkip 6 100 ["dom", "month", "yy", "hh", "mm", "ss", "st"]
  else if begins "/unix?" line then ScanFits line numberSkip 6 100 ["uni"]
  else if begins "/LED?" line then ScanFits line numberSkip 5 100 ["no", "delay", "bri"]
  else if begins "/setallcolour?" line then ScanFits line (fun _ => 7) 6 50 ["bc"]
  else if begins "/setclockcolour?" line then
    ScanFits line (fun _ => 7) 6 50 ["hc", "mc", "sc", "bc"]
  else True

section Requests

variable {line behind : List UInt8} {names : List String}

theorem length_of_begins {text : String} (noNul : (ascii text).all (· != 0) = true)
    (begun : begins text line = true) : (ascii text).length ≤ line.length :=
  ((begins_iff noNul line).mp begun).length_le

/-- A scan for numbers. -/
theorem numbers_inside {start stop : Nat} (begun : start ≤ line.length) (ordered : start ≤ stop)
    (isNames : FieldNames names) :
    (∀ place ∈ positionsReads (line ++ 0 :: behind) (numbersReads (line ++ 0 :: behind)) start stop
      names, place ≤ line.length) ↔ ScanFits line numberSkip start stop names :=
  positionsReads_inside (fun name i => numberReads_inside (i + numberSkip name)) begun ordered
    isNames

/-- A scan for colours. -/
theorem colours_inside {start stop : Nat} (begun : start ≤ line.length) (ordered : start ≤ stop)
    (isNames : FieldNames names) :
    (∀ place ∈ positionsReads (line ++ 0 :: behind) (fun _ => colourReads (line ++ 0 :: behind))
      start stop names, place ≤ line.length) ↔ ScanFits line (fun _ => 7) start stop names :=
  positionsReads_inside (fun _ i => colourReads_inside i) begun ordered isNames

/-- **The scans stay inside the URL** exactly if each finds in it what it looks for. -/
theorem queryReads_inside (line behind : List UInt8) :
    (∀ place ∈ queryReads (line ++ 0 :: behind), place ≤ line.length) ↔ QueryFits line := by
  have same : ∀ {text : String}, (ascii text).all (· != 0) = true →
      begins text (line ++ 0 :: behind) = begins text line := fun noNul =>
    begins_terminated noNul (Nat.zero_le line.length) behind
  rw [queryReads, QueryFits, same (show (ascii "/raw?").all (· != 0) = true by decide),
    same (show (ascii "/date?").all (· != 0) = true by decide),
    same (show (ascii "/unix?").all (· != 0) = true by decide),
    same (show (ascii "/LED?").all (· != 0) = true by decide),
    same (show (ascii "/setallcolour?").all (· != 0) = true by decide),
    same (show (ascii "/setclockcolour?").all (· != 0) = true by decide)]
  split_ifs with raw date unix led allColour clockColour
  · have begun : 5 ≤ line.length := length_of_begins (by decide) raw
    refine (rawReads_inside 15 (Nat.le_succ_of_le begun) 0 0).trans ⟨fun fits => ?_, fun fits => ?_⟩
    · refine ⟨fits.light rfl, fits.hue rfl, fits.both.imp id fun both => ?_⟩
      exact ⟨both.1.resolve_left (not_not.mpr rfl), both.2.resolve_left (not_not.mpr rfl)⟩
    · exact ⟨fun _ => fits.light, fun _ => fits.hue, fits.both.imp id (And.imp .inr .inr)⟩
  · exact numbers_inside (length_of_begins (by decide) date) (by decide)
      ⟨by decide, by decide, by decide +kernel⟩
  · exact numbers_inside (length_of_begins (by decide) unix) (by decide)
      ⟨by decide, by decide, by decide +kernel⟩
  · exact numbers_inside (length_of_begins (by decide) led) (by decide)
      ⟨by decide, by decide, by decide +kernel⟩
  · exact colours_inside ((show 6 ≤ 14 by decide).trans (length_of_begins (by decide) allColour))
      (by decide) ⟨by decide, by decide, by decide +kernel⟩
  · exact colours_inside ((show 6 ≤ 16 by decide).trans (length_of_begins (by decide) clockColour))
      (by decide) ⟨by decide, by decide, by decide +kernel⟩
  · exact iff_of_true (fun _ none => nomatch none) trivial

/-- **A date without its fields** is read past its end, and past the end of the buffer. -/
theorem queryReads_date :
    ¬ (∀ place ∈ queryReads (getStringGlobal (ascii "/date?")), place ≤ (ascii "/date?").length) ∧
      ∃ place ∈ queryReads (getStringGlobal (ascii "/date?")),
        (getStringGlobal (ascii "/date?")).length ≤ place := by
  have read : 99 ∈ queryReads (getStringGlobal (ascii "/date?")) := by decide +kernel
  exact ⟨fun inside => absurd (inside 99 read) (by decide), 99, read, by decide⟩

end Requests

end EquinoxClock.Web
