import Mathlib.Data.List.Forall2
import HttpScenario.Json.Reader
import HttpScenario.Proofs.Json.Lexeme
import HttpScenario.Proofs.Json.Parts
/-!
# Reading what was written

`Reads read v x` says that a reader reads `x` where the value `v` is written in the pretty form: at
any indentation level, after any blanks, and before anything that does not go on with a number.

Readers of lists and objects share two loops, and so do the statements about them: if the items are
read one by one, so is the list (`items_written`), and the same holds of the members of an object,
whose reader carries what it has gathered (`members_written`).  Both are inductions over what is
written.  A loop gets as many tries as there are octets, and a written item has at least one.
-/

namespace HttpScenario.Json

/-! ### The octets of the pretty form -/

/-- The octets of a value at an indentation level. -/
def octets (level : Nat) (v : Json) : Octets :=
  Utf8.encodeChars (prettyChars level v)

/-- The octets of a line break and an indentation. -/
def breakOctets (level : Nat) : Octets :=
  Utf8.encodeChars (lineStart level)

/-- The octets of the further items of a list and of its end. -/
def itemsOctets (level : Nat) (items : List Json) : Octets :=
  Utf8.encodeChars (prettyItems level items)

/-- The octets of the further members of an object and of its end. -/
def membersOctets (level : Nat) (members : List (String × Json)) : Octets :=
  Utf8.encodeChars (prettyMembers level members)

/-- The octets of a member from its key on. -/
def memberOctets (level : Nat) (key : String) (v : Json) : Octets :=
  0x22 :: (quotedOctets key ++ 0x3A :: 0x20 :: octets level v)

/-- The octets of a list after its bracket. -/
def listOctets (level : Nat) : List Json → Octets
  | [] => [0x5D]
  | item :: items =>
    breakOctets (level + 1) ++ (octets (level + 1) item ++ itemsOctets level items)

/-- The octets of an object after its brace. -/
def objectOctets (level : Nat) : List (String × Json) → Octets
  | [] => [0x7D]
  | (key, v) :: members =>
    breakOctets (level + 1) ++ (memberOctets (level + 1) key v ++ membersOctets level members)

theorem octets_str (level : Nat) (s : String) :
    octets level (.str s) = 0x22 :: quotedOctets s :=
  encodeChars_quoted s

theorem octets_arr (level : Nat) (items : List Json) :
    octets level (.arr items) = 0x5B :: listOctets level items := by
  cases items with
  | nil => rfl
  | cons item items =>
    show Utf8.encodeChars
      ('[' :: lineStart (level + 1) ++ prettyChars (level + 1) item ++ prettyItems level items) = _
    simp only [Utf8.encodeChars_append, Utf8.encodeChars_cons, List.append_assoc, List.cons_append]
    rfl

theorem octets_obj (level : Nat) (members : List (String × Json)) :
    octets level (.obj members) = 0x7B :: objectOctets level members := by
  cases members with
  | nil => rfl
  | cons member members =>
    obtain ⟨key, v⟩ := member
    show Utf8.encodeChars
      ('{' :: lineStart (level + 1) ++ quoted key ++ ':' :: ' ' :: prettyChars (level + 1) v
        ++ prettyMembers level members) = _
    simp only [Utf8.encodeChars_append, Utf8.encodeChars_cons, encodeChars_quoted,
      List.append_assoc, List.cons_append]
    simp only [objectOctets, memberOctets, List.append_assoc, List.cons_append]
    rfl

theorem itemsOctets_nil (level : Nat) : itemsOctets level [] = breakOctets level ++ [0x5D] := by
  show Utf8.encodeChars (lineStart level ++ [']']) = _
  rw [Utf8.encodeChars_append]
  rfl

theorem itemsOctets_cons (level : Nat) (item : Json) (items : List Json) :
    itemsOctets level (item :: items) =
      0x2C :: (breakOctets (level + 1) ++
        (octets (level + 1) item ++ itemsOctets level items)) := by
  show Utf8.encodeChars
    (',' :: lineStart (level + 1) ++ prettyChars (level + 1) item ++ prettyItems level items) = _
  simp only [Utf8.encodeChars_append, Utf8.encodeChars_cons, List.append_assoc, List.cons_append]
  rfl

theorem membersOctets_nil (level : Nat) : membersOctets level [] = breakOctets level ++ [0x7D] := by
  show Utf8.encodeChars (lineStart level ++ ['}']) = _
  rw [Utf8.encodeChars_append]
  rfl

theorem membersOctets_cons (level : Nat) (key : String) (v : Json)
    (members : List (String × Json)) :
    membersOctets level ((key, v) :: members) =
      0x2C :: (breakOctets (level + 1) ++
        (memberOctets (level + 1) key v ++ membersOctets level members)) := by
  show Utf8.encodeChars
    (',' :: lineStart (level + 1) ++ quoted key ++ ':' :: ' ' :: prettyChars (level + 1) v
      ++ prettyMembers level members) = _
  simp only [Utf8.encodeChars_append, Utf8.encodeChars_cons, encodeChars_quoted,
    List.append_assoc, List.cons_append]
  simp only [memberOctets, List.append_assoc, List.cons_append]
  rfl

/-! ### Blanks -/

/-- Blanks only. -/
def Blank (spaces : Octets) : Prop :=
  ∀ b ∈ spaces, isSpace b = true

theorem blank_nil : Blank [] :=
  fun _ h => nomatch h

theorem blank_space : Blank [0x20] := by
  intro b hb
  obtain rfl := List.mem_singleton.mp hb
  rfl

theorem blank_breakOctets (level : Nat) : Blank (breakOctets level) := by
  have hspaces : ∀ n, Utf8.encodeChars (List.replicate n ' ') = List.replicate n 0x20 := by
    intro n
    induction n with
    | zero => rfl
    | succ n ih =>
      rw [List.replicate_succ, Utf8.encodeChars_cons, ih]
      rfl
  intro b hb
  unfold breakOctets lineStart at hb
  rw [Utf8.encodeChars_cons, hspaces] at hb
  rcases List.mem_append.mp hb with hb | hb
  · obtain rfl := List.mem_singleton.mp hb
    decide
  · obtain rfl := List.eq_of_mem_replicate hb
    decide

/-- What is left after blanks starts with the first octet that is none. -/
theorem skipSpaces_append {spaces : Octets} (h : Blank spaces) {b : UInt8}
    (hb : isSpace b = false) (rest : Octets) :
    skipSpaces (spaces ++ b :: rest) = b :: rest := by
  unfold skipSpaces
  rw [List.dropWhile_append_of_pos h]
  simp [hb]

theorem skipSpaces_cons {b : UInt8} (hb : isSpace b = false) (rest : Octets) :
    skipSpaces (b :: rest) = b :: rest :=
  skipSpaces_append blank_nil hb rest

/-! ### Small values -/

/-- How a whole number is written and read: with its digits, after a minus sign if it is
negative. -/
theorem whole_written (level : Nat) {n : Int} (h : (Number.whole n).Kept) :
    ∃ b bs, octets level (.int n) = b :: bs ∧
      ((b = 0x2D ∧ ∀ rest, Ended rest → readNumber true (bs ++ rest) = .ok (.whole n, rest)) ∨
        (isDigitOctet b = true ∧
          ∀ rest, Ended rest → readNumber false (b :: (bs ++ rest)) = .ok (.whole n, rest))) := by
  obtain ⟨hlow, hhigh⟩ := h
  simp only [Number.least, Number.limit] at hlow hhigh
  by_cases hnegative : n < 0
  · refine ⟨0x2D, Utf8.encodeChars (Double.decimalDigits n.natAbs), ?_, Or.inl ⟨rfl, ?_⟩⟩
    · have htext : (Number.whole n).text = String.ofList ('-' :: Double.decimalDigits n.natAbs) :=
        if_pos hnegative
      show Utf8.encodeChars (Number.whole n).text.toList = _
      rw [htext, String.toList_ofList, Utf8.encodeChars_cons]
      rfl
    · intro rest hrest
      have hvalue : wholeNumber true n.natAbs = .whole n := by
        unfold wholeNumber
        rw [if_neg (by decide), if_neg (by simp; omega)]
        congr 1
        omega
      rw [readNumber_decimalDigits true (by unfold significandMax; omega) hrest, hvalue]
  · obtain ⟨c, cs, hdigits⟩ :=
      List.exists_cons_of_ne_nil (Double.decimalDigits_ne_nil n.toNat)
    have hc : c.isDigit = true :=
      Double.isDigit_of_mem_decimalDigits (hdigits ▸ List.mem_cons_self)
    obtain ⟨-, hbound⟩ := Double.toNat_of_isDigit hc
    have hchars : Utf8.encodeChars (Double.decimalDigits n.toNat) =
        UInt8.ofNat c.toNat :: Utf8.encodeChars cs := by
      rw [hdigits, Utf8.encodeChars_cons, Utf8.encodeNat_ascii (by omega)]
      rfl
    refine ⟨UInt8.ofNat c.toNat, Utf8.encodeChars cs, ?_, Or.inr ⟨isDigitOctet_ofNat hc, ?_⟩⟩
    · have htext : (Number.whole n).text = String.ofList (Double.decimalDigits n.toNat) :=
        if_neg hnegative
      show Utf8.encodeChars (Number.whole n).text.toList = _
      rw [htext, String.toList_ofList, hchars]
    · intro rest hrest
      have hvalue : wholeNumber false n.toNat = .whole n := by
        unfold wholeNumber
        rw [if_pos (by decide), Int.toNat_of_nonneg (by omega)]
      rw [← List.cons_append, ← hchars,
        readNumber_decimalDigits false (by unfold significandMax; omega) hrest, hvalue]

theorem ne_of_isDigitOctet {b c : UInt8} (h : isDigitOctet b = true)
    (hc : isDigitOctet c = false) : b ≠ c := by
  rintro rfl
  rw [h] at hc
  cases hc

/-- An octet that a value may start with: no blank, and no end of a list. -/
def Starts (b : UInt8) : Prop :=
  isSpace b = false ∧ b ≠ 0x5D

instance (b : UInt8) : Decidable (Starts b) :=
  inferInstanceAs (Decidable (_ ∧ _))

theorem starts_of_isDigitOctet {b : UInt8} (h : isDigitOctet b = true) : Starts b := by
  refine ⟨?_, ne_of_isDigitOctet h (by decide)⟩
  have hblank : ∀ c, isDigitOctet c = false → (b == c) = false := by
    intro c hc
    exact beq_eq_false_iff_ne.mpr (ne_of_isDigitOctet h hc)
  unfold isSpace
  rw [hblank 0x20 (by decide), hblank 0x0A (by decide), hblank 0x09 (by decide),
    hblank 0x0D (by decide)]
  rfl

/-- A value that is neither a list nor an object, and can be read back. -/
def Scalar : Json → Prop
  | .num n => n.Kept
  | .arr _ => False
  | .obj _ => False
  | _ => True

theorem readScalar_minus {n : Number} {s rest : Octets} (h : readNumber true s = .ok (n, rest)) :
    readScalar 0x2D s = .ok (.num n, rest) := by
  show (readNumber true s).map _ = _
  rw [h]
  rfl

theorem readScalar_digit {b : UInt8} (hb : isDigitOctet b = true) {n : Number} {s rest : Octets}
    (h : readNumber false (b :: s) = .ok (n, rest)) : readScalar b s = .ok (.num n, rest) := by
  have hne : ∀ c, isDigitOctet c = false → b ≠ c := fun _ hc => ne_of_isDigitOctet hb hc
  unfold readScalar
  rw [if_neg (hne 0x6E (by decide)), if_neg (hne 0x74 (by decide)), if_neg (hne 0x66 (by decide)),
    if_neg (hne 0x2D (by decide)), if_pos hb, h]
  rfl

theorem readScalar_quote (s : Octets) :
    readScalar 0x22 s = (readText s).map fun (text, rest) => (.str text, rest) := by
  unfold readScalar
  rw [if_neg (by decide), if_neg (by decide), if_neg (by decide), if_neg (by decide),
    if_neg (by decide), if_pos rfl]

/-- What a small value is written with is read back by the reader of small values. -/
theorem scalar_written (level : Nat) {v : Json} (h : v.Scalar) :
    ∃ b bs, octets level v = b :: bs ∧ Starts b ∧ b ≠ 0x5B ∧ b ≠ 0x7B ∧ (b = 0x6E → v = .null) ∧
      ∀ rest, Ended rest → readScalar b (bs ++ rest) = .ok (v, rest) := by
  cases v with
  | null =>
    refine ⟨0x6E, [0x75, 0x6C, 0x6C], rfl, by decide, by decide, by decide, fun _ => rfl, ?_⟩
    intro rest _
    rfl
  | bool value =>
    cases value with
    | true =>
      refine ⟨0x74, [0x72, 0x75, 0x65], rfl, by decide, by decide, by decide, nofun, ?_⟩
      intro rest _
      rfl
    | false =>
      refine ⟨0x66, [0x61, 0x6C, 0x73, 0x65], rfl, by decide, by decide, by decide, nofun, ?_⟩
      intro rest _
      rfl
  | str s =>
    refine ⟨0x22, quotedOctets s, octets_str level s, by decide, by decide, by decide, nofun, ?_⟩
    intro rest _
    rw [readScalar_quote, readText_quoted]
    rfl
  | num n =>
    cases n with
    | real value => exact absurd h id
    | whole n =>
      obtain ⟨b, bs, hoctets, ⟨rfl, hread⟩ | ⟨hb, hread⟩⟩ := whole_written level h
      · refine ⟨0x2D, bs, hoctets, by decide, by decide, by decide, nofun, ?_⟩
        intro rest hrest
        exact readScalar_minus (hread rest hrest)
      · refine ⟨b, bs, hoctets, starts_of_isDigitOctet hb, ne_of_isDigitOctet hb (by decide),
          ne_of_isDigitOctet hb (by decide), fun h => absurd h (ne_of_isDigitOctet hb (by decide)),
          ?_⟩
        intro rest hrest
        exact readScalar_digit hb (hread rest hrest)
  | arr items => exact absurd h id
  | obj members => exact absurd h id

/-! ### Readers -/

/-- A reader reads `x` wherever the value `v` is written. -/
structure Reads {α : Type} (read : Reader α) (v : Json) (x : α) : Prop where
  starts : ∀ level, ∃ b bs, octets level v = b :: bs ∧ Starts b
  read_octets : ∀ (level : Nat) {spaces rest : Octets}, Blank spaces → Ended rest →
    read (spaces ++ (octets level v ++ rest)) = .ok (x, rest)

/-- A reader of members reads `x` wherever a colon and the value `v` are written. -/
def ReadsAfterKey {α : Type} (read : Reader α) (v : Json) (x : α) : Prop :=
  ∀ (level : Nat) {rest : Octets}, Ended rest →
    read (0x3A :: 0x20 :: (octets level v ++ rest)) = .ok (x, rest)

theorem readColon_cons (s : Octets) : readColon (0x3A :: s) = .ok s := by
  unfold readColon
  rw [skipSpaces_cons (by decide)]
  rfl

/-- The colon is read first, and then the value. -/
theorem Reads.afterKey {α β : Type} {read : Reader α} {v : Json} {x : α} (h : Reads read v x)
    (f : α → β) :
    ReadsAfterKey (fun s => do
      let s ← readColon s
      let (x, s) ← read s
      .ok (f x, s)) v (f x) := by
  intro level rest hrest
  have hread := h.read_octets level blank_space hrest
  show (readColon _ >>= _) = _
  rw [readColon_cons]
  show (read _ >>= _) = _
  rw [show 0x20 :: (octets level v ++ rest) = [0x20] ++ (octets level v ++ rest) from rfl, hread]
  rfl

section items

variable {α : Type} {item : Reader α} {vs : List Json} {xs : List α}

theorem ended_of_breakOctets (level : Nat) (rest : Octets) : Ended (breakOctets level ++ rest) := by
  rintro b ⟨⟩
  decide

theorem ended_itemsOctets (level : Nat) (items : List Json) (rest : Octets) :
    Ended (itemsOctets level items ++ rest) := by
  cases items with
  | nil =>
    rw [itemsOctets_nil, List.append_assoc]
    exact ended_of_breakOctets level _
  | cons item items =>
    rw [itemsOctets_cons]
    rintro b ⟨⟩
    decide

theorem nextItem_comma {spaces : Octets} (hspaces : Blank spaces) {b : UInt8} (hb : Starts b)
    (s : Octets) : nextItem false (0x2C :: (spaces ++ b :: s)) = .ok (true, b :: s) := by
  unfold nextItem
  rw [skipSpaces_cons (by decide)]
  dsimp only
  rw [if_neg (by decide), if_neg (by decide), if_pos rfl, skipSpaces_append hspaces hb.1]
  dsimp only
  rw [if_neg hb.2]

theorem nextItem_first {spaces : Octets} (hspaces : Blank spaces) {b : UInt8} (hb : Starts b)
    (s : Octets) : nextItem true (spaces ++ b :: s) = .ok (true, b :: s) := by
  unfold nextItem
  rw [skipSpaces_append hspaces hb.1]
  dsimp only
  rw [if_neg hb.2, if_pos rfl]

theorem nextItem_end {spaces : Octets} (hspaces : Blank spaces) (first : Bool) (s : Octets) :
    nextItem first (spaces ++ 0x5D :: s) = .ok (false, 0x5D :: s) := by
  unfold nextItem
  rw [skipSpaces_append hspaces (by decide)]
  rfl

theorem endItems_cons (s : Octets) : endItems (0x5D :: s) = .ok s := by
  unfold endItems
  rw [skipSpaces_cons (by decide)]
  rfl

/-- One item is read, and the loop goes on. -/
theorem items_step {first : Bool} {s t left rest : Octets} {x : α} {tries : Nat}
    (hnext : nextItem first s = .ok (true, t)) (hitem : item t = .ok (x, left))
    (hrest : items item tries false left = .ok (xs, rest)) :
    items item (tries + 1) first s = .ok (x :: xs, rest) := by
  rw [items, hnext]
  simp only [hitem, hrest]
  rfl

/-- The loop stops at the end of the list. -/
theorem items_end (item : Reader α) {spaces : Octets} (hspaces : Blank spaces) (first : Bool)
    (rest : Octets) (tries : Nat) :
    items item (tries + 1) first (spaces ++ 0x5D :: rest) = .ok ([], rest) := by
  rw [items, nextItem_end hspaces]
  simp only [endItems_cons]
  rfl

/-- The further items of a list are read one by one. -/
theorem items_further (h : List.Forall₂ (Reads item) vs xs) (level : Nat) (rest : Octets)
    {tries : Nat} (htries : vs.length < tries) :
    items item tries false (itemsOctets level vs ++ rest) = .ok (xs, rest) := by
  induction h generalizing tries with
  | nil =>
    obtain ⟨tries, rfl⟩ := Nat.exists_eq_succ_of_ne_zero (Nat.ne_of_gt htries)
    rw [itemsOctets_nil, List.append_assoc, List.singleton_append]
    exact items_end item (blank_breakOctets level) false rest tries
  | @cons v x vs xs hread _ ih =>
    obtain ⟨tries, rfl⟩ := Nat.exists_eq_succ_of_ne_zero (Nat.ne_of_gt (Nat.zero_lt_of_lt htries))
    obtain ⟨b, bs, hoctets, hstarts⟩ := hread.starts (level + 1)
    have hitem := hread.read_octets (level + 1) blank_nil (ended_itemsOctets level vs rest)
    have hrest := ih (Nat.lt_of_succ_lt_succ htries)
    rw [itemsOctets_cons, List.cons_append, List.append_assoc, List.append_assoc, hoctets,
      List.cons_append]
    rw [List.nil_append, hoctets, List.cons_append] at hitem
    exact items_step (nextItem_comma (blank_breakOctets _) hstarts _) hitem hrest

theorem length_le_itemsOctets (level : Nat) (vs : List Json) :
    vs.length ≤ (itemsOctets level vs).length := by
  induction vs with
  | nil => exact Nat.zero_le _
  | cons v vs ih =>
    rw [itemsOctets_cons]
    simp only [List.length_cons, List.length_append]
    omega

/-- A written list has at least as many octets as items, so that a loop has tries enough. -/
theorem length_le_listOctets (level : Nat) (vs : List Json) :
    vs.length ≤ (listOctets level vs).length := by
  cases vs with
  | nil => exact Nat.zero_le _
  | cons v vs =>
    have hbreak : 0 < (breakOctets (level + 1)).length := Nat.succ_pos _
    have hfurther := length_le_itemsOctets level vs
    rw [listOctets]
    simp only [List.length_cons, List.length_append]
    omega

/-- A list is read item by item, once its bracket is read. -/
theorem items_written (h : List.Forall₂ (Reads item) vs xs) (level : Nat) (rest : Octets) :
    items item ((listOctets level vs ++ rest).length + 1) true (listOctets level vs ++ rest) =
      .ok (xs, rest) := by
  have htries : vs.length ≤ (listOctets level vs ++ rest).length := by
    rw [List.length_append]
    exact Nat.le_add_right_of_le (length_le_listOctets level vs)
  generalize (listOctets level vs ++ rest).length = tries at htries ⊢
  cases h with
  | nil =>
    exact items_end item blank_nil true rest tries
  | @cons v x vs xs hread hfurther =>
    obtain ⟨b, bs, hoctets, hstarts⟩ := hread.starts (level + 1)
    have hitem := hread.read_octets (level + 1) blank_nil (ended_itemsOctets level vs rest)
    have hrest := items_further hfurther level rest htries
    rw [listOctets, List.append_assoc, List.append_assoc, hoctets, List.cons_append]
    rw [List.nil_append, hoctets, List.cons_append] at hitem
    exact items_step (nextItem_first (blank_breakOctets _) hstarts _) hitem hrest

end items

section members

variable {σ : Type} {member : σ → String → Reader σ}

/-- What is gathered from the members of an object, one after the other. -/
inductive Gathers (member : σ → String → Reader σ) : σ → List (String × Json) → σ → Prop
  | nil (gathered : σ) : Gathers member gathered [] gathered
  | cons {before after final : σ} {key : String} {v : Json} {members : List (String × Json)}
      (hread : ReadsAfterKey (member before key) v after) (h : Gathers member after members final) :
      Gathers member before ((key, v) :: members) final

theorem ended_membersOctets (level : Nat) (members : List (String × Json)) (rest : Octets) :
    Ended (membersOctets level members ++ rest) := by
  cases members with
  | nil =>
    rw [membersOctets_nil, List.append_assoc]
    exact ended_of_breakOctets level _
  | cons member members =>
    rw [membersOctets_cons]
    rintro b ⟨⟩
    decide

theorem nextMember_comma {spaces : Octets} (hspaces : Blank spaces) (s : Octets) :
    nextMember false (0x2C :: (spaces ++ 0x22 :: s)) = .ok (true, s) := by
  unfold nextMember
  rw [skipSpaces_cons (by decide)]
  dsimp only
  rw [if_neg (by decide), if_neg (by decide), if_pos rfl, skipSpaces_append hspaces (by decide)]
  rfl

theorem nextMember_first {spaces : Octets} (hspaces : Blank spaces) (s : Octets) :
    nextMember true (spaces ++ 0x22 :: s) = .ok (true, s) := by
  unfold nextMember
  rw [skipSpaces_append hspaces (by decide)]
  rfl

theorem nextMember_end {spaces : Octets} (hspaces : Blank spaces) (first : Bool) (s : Octets) :
    nextMember first (spaces ++ 0x7D :: s) = .ok (false, s) := by
  unfold nextMember
  rw [skipSpaces_append hspaces (by decide)]
  rfl

/-- A key is read, the member reads on, and the loop goes on. -/
theorem members_of_next {before after : σ} {key : String} {first : Bool} {s t rest : Octets}
    (hnext : nextMember first s = .ok (true, quotedOctets key ++ t))
    (hmember : member before key t = .ok (after, rest)) (tries : Nat) :
    members member (tries + 1) first before s = members member tries false after rest := by
  rw [members, hnext]
  simp only [readText_quoted, hmember]

/-- The loop stops at the end of the object. -/
theorem members_end (member : σ → String → Reader σ) {spaces : Octets} (hspaces : Blank spaces)
    (first : Bool) (gathered : σ) (rest : Octets) (tries : Nat) :
    members member (tries + 1) first gathered (spaces ++ 0x7D :: rest) = .ok (gathered, rest) := by
  rw [members, nextMember_end hspaces]

/-- One member is read, and the loop goes on. -/
theorem members_step {before after : σ} {key : String} {v : Json}
    (hread : ReadsAfterKey (member before key) v after) (level : Nat) {first : Bool}
    {s rest : Octets} (hrest : Ended rest) (tries : Nat)
    (hnext : nextMember first s =
      .ok (true, quotedOctets key ++ 0x3A :: 0x20 :: (octets level v ++ rest))) :
    members member (tries + 1) first before s = members member tries false after rest := by
  exact members_of_next hnext (hread level hrest) tries

theorem members_further {before final : σ} {written : List (String × Json)}
    (h : Gathers member before written final) (level : Nat) (rest : Octets) {tries : Nat}
    (htries : written.length < tries) :
    members member tries false before (membersOctets level written ++ rest) =
      .ok (final, rest) := by
  induction h generalizing tries with
  | nil gathered =>
    obtain ⟨tries, rfl⟩ := Nat.exists_eq_succ_of_ne_zero (Nat.ne_of_gt htries)
    rw [membersOctets_nil, List.append_assoc, List.singleton_append]
    exact members_end member (blank_breakOctets level) false gathered rest tries
  | @cons before after final key v written hread _ ih =>
    obtain ⟨tries, rfl⟩ := Nat.exists_eq_succ_of_ne_zero (Nat.ne_of_gt (Nat.zero_lt_of_lt htries))
    have hended := ended_membersOctets level written rest
    rw [members_step hread (level + 1) hended tries]
    · exact ih (Nat.lt_of_succ_lt_succ htries)
    · rw [membersOctets_cons]
      simp only [memberOctets, List.cons_append, List.append_assoc]
      exact nextMember_comma (blank_breakOctets _) _

theorem length_le_membersOctets (level : Nat) (written : List (String × Json)) :
    written.length ≤ (membersOctets level written).length := by
  induction written with
  | nil => exact Nat.zero_le _
  | cons member written ih =>
    rw [membersOctets_cons]
    simp only [List.length_cons, List.length_append]
    omega

/-- A written object has at least as many octets as members. -/
theorem length_le_objectOctets (level : Nat) (written : List (String × Json)) :
    written.length ≤ (objectOctets level written).length := by
  cases written with
  | nil => exact Nat.zero_le _
  | cons member written =>
    have hbreak : 0 < (breakOctets (level + 1)).length := Nat.succ_pos _
    have hfurther := length_le_membersOctets level written
    rw [objectOctets]
    simp only [List.length_cons, List.length_append]
    omega

/-- An object is read member by member, once its brace is read. -/
theorem members_written {before final : σ} {written : List (String × Json)}
    (h : Gathers member before written final) (level : Nat) (rest : Octets) :
    members member ((objectOctets level written ++ rest).length + 1) true before
      (objectOctets level written ++ rest) = .ok (final, rest) := by
  have htries : written.length ≤ (objectOctets level written ++ rest).length := by
    rw [List.length_append]
    exact Nat.le_add_right_of_le (length_le_objectOctets level written)
  generalize (objectOctets level written ++ rest).length = tries at htries ⊢
  cases h with
  | nil gathered =>
    exact members_end member blank_nil true before rest tries
  | @cons before after final key v written hread hfurther =>
    have hended := ended_membersOctets level written rest
    rw [members_step hread (level + 1) hended tries]
    · exact members_further hfurther level rest htries
    · simp only [objectOctets, memberOctets, List.cons_append, List.append_assoc]
      exact nextMember_first (blank_breakOctets _) _

end members

/-! ### Whole texts -/

theorem encode_pretty (v : Json) : Utf8.encode v.pretty = octets 0 v := by
  show Utf8.encodeChars (String.ofList (prettyChars 0 v)).toList = _
  rw [String.toList_ofList]
  rfl

/-- What is read where a document is written is what the whole text of that document is read as. -/
theorem readWhole_of_reads {α : Type} {read : Reader α} {v : Json} {x : α}
    (h : Reads read v x) : readWhole read (Utf8.encode v.pretty) = .ok x := by
  have hended : Ended [] := nofun
  have hread := h.read_octets 0 blank_nil hended
  rw [List.nil_append, List.append_nil] at hread
  rw [encode_pretty, readWhole, hread]
  rfl

end HttpScenario.Json
