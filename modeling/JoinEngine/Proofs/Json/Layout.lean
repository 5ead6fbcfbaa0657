import JoinEngine.Proofs.Json.Tokens

/-!
Documents are read back from their texts. The two writers differ in the blanks between tokens
alone, so both are cases of one that is told where blanks stand, and the reader passes over any.
What is read back is the document itself if all of its numbers are integers that fit a word; a
floating-point number comes back as the double nearest to its digits, if at all.
-/

namespace JoinEngine.Json

/-- Where blanks stand in a text: in front of items and closing brackets, by their depth, and
behind a colon. -/
structure Layout where
  gap : Nat → List Char
  colon : List Char
  gap_blank : ∀ depth, ∀ c ∈ gap depth, isBlank c = true
  colon_blank : ∀ c ∈ colon, isBlank c = true

namespace Layout

def compact : Layout where
  gap _ := []
  colon := []
  gap_blank := by simp
  colon_blank := by simp

def pretty : Layout where
  gap depth := '\n' :: List.replicate (2 * depth) ' '
  colon := [' ']
  gap_blank depth c member := by
    rcases List.mem_cons.mp member with rfl | hspace
    · rfl
    · rw [(List.mem_replicate.mp hspace).2]
      rfl
  colon_blank := by simp [isBlank]

end Layout

variable (l : Layout)

mutual

def laidOut (depth : Nat) : Json → List Char
  | .null => "null".toList
  | .bool b => (if b then "true" else "false").toList
  | .number n => n.text.toList
  | .string s => stringChars s
  | .array [] => ['[', ']']
  | .array (j :: rest) =>
    '[' :: l.gap (depth + 1) ++ j.laidOut (depth + 1) ++ laidOutItems depth rest
  | .object [] => ['\x7b', '\x7d']
  | .object ((name, j) :: rest) =>
    '\x7b' :: l.gap (depth + 1) ++ stringChars name ++ ':' :: l.colon ++
      j.laidOut (depth + 1) ++ laidOutMembers depth rest
  | .unreadable => "null".toList

def laidOutItems (depth : Nat) : List Json → List Char
  | [] => l.gap depth ++ [']']
  | j :: rest => ',' :: l.gap (depth + 1) ++ j.laidOut (depth + 1) ++ laidOutItems depth rest

def laidOutMembers (depth : Nat) : List (String × Json) → List Char
  | [] => l.gap depth ++ ['\x7d']
  | (name, j) :: rest =>
    ',' :: l.gap (depth + 1) ++ stringChars name ++ ':' :: l.colon ++
      j.laidOut (depth + 1) ++ laidOutMembers depth rest

end

mutual

theorem compactChars_eq (depth : Nat) (j : Json) :
    j.compactChars = j.laidOut .compact depth := by
  cases j with
  | array items =>
      cases items with
      | nil => rfl
      | cons j rest =>
          rw [compactChars, laidOut, compactChars_eq (depth + 1) j, compactItems_eq depth rest]
          rfl
  | object members =>
      cases members with
      | nil => rfl
      | cons member rest =>
          obtain ⟨name, j⟩ := member
          rw [compactChars, laidOut, compactChars_eq (depth + 1) j, compactMembers_eq depth rest]
          simp [Layout.compact]
  | _ => rfl

theorem compactItems_eq (depth : Nat) (items : List Json) :
    compactItems items = laidOutItems .compact depth items := by
  cases items with
  | nil => rfl
  | cons j rest =>
      rw [compactItems, laidOutItems, compactChars_eq (depth + 1) j, compactItems_eq depth rest]
      rfl

theorem compactMembers_eq (depth : Nat) (members : List (String × Json)) :
    compactMembers members = laidOutMembers .compact depth members := by
  cases members with
  | nil => rfl
  | cons member rest =>
      obtain ⟨name, j⟩ := member
      rw [compactMembers, laidOutMembers, compactChars_eq (depth + 1) j,
        compactMembers_eq depth rest]
      simp [Layout.compact]

end

mutual

theorem prettyChars_eq (depth : Nat) (j : Json) :
    j.prettyChars depth = j.laidOut .pretty depth := by
  cases j with
  | array items =>
      cases items with
      | nil => rfl
      | cons j rest =>
          rw [prettyChars, laidOut, prettyChars_eq (depth + 1) j, prettyItems_eq depth rest]
          rfl
  | object members =>
      cases members with
      | nil => rfl
      | cons member rest =>
          obtain ⟨name, j⟩ := member
          rw [prettyChars, laidOut, prettyChars_eq (depth + 1) j, prettyMembers_eq depth rest]
          simp only [List.append_assoc, List.cons_append]
          rfl
  | _ => rfl

theorem prettyItems_eq (depth : Nat) (items : List Json) :
    prettyItems depth items = laidOutItems .pretty depth items := by
  cases items with
  | nil => rfl
  | cons j rest =>
      rw [prettyItems, laidOutItems, prettyChars_eq (depth + 1) j, prettyItems_eq depth rest]
      rfl

theorem prettyMembers_eq (depth : Nat) (members : List (String × Json)) :
    prettyMembers depth members = laidOutMembers .pretty depth members := by
  cases members with
  | nil => rfl
  | cons member rest =>
      obtain ⟨name, j⟩ := member
      rw [prettyMembers, laidOutMembers, prettyChars_eq (depth + 1) j, prettyMembers_eq depth rest]
      simp only [List.append_assoc, List.cons_append]
      rfl

end

/-- Every number of the document is an integer that fits a word, and everything in it denotes
something. -/
inductive Exact : Json → Prop
  | null : Exact .null
  | bool (b : Bool) : Exact (.bool b)
  | int {n : Int} (hfits : FitsWord n) : Exact (.number (.int n))
  | string (s : String) : Exact (.string s)
  | array {items : List Json} (hitems : ∀ j ∈ items, Exact j) : Exact (.array items)
  | object {members : List (String × Json)} (hmembers : ∀ member ∈ members, Exact member.2) :
      Exact (.object members)

theorem skipBlanks_append {blanks : List Char} (hblank : ∀ c ∈ blanks, isBlank c = true)
    (s : List Char) : skipBlanks (blanks ++ s) = skipBlanks s :=
  List.dropWhile_append_of_pos hblank

theorem skipBlanks_cons {c : Char} (h : isBlank c = false) (s : List Char) :
    skipBlanks (c :: s) = c :: s := by
  simp [skipBlanks, h]

theorem skipBlanks_skipBlanks (s : List Char) : skipBlanks (skipBlanks s) = skipBlanks s := by
  induction s with
  | nil => rfl
  | cons c s ih =>
      cases h : isBlank c with
      | false => rw [skipBlanks_cons h, skipBlanks_cons h]
      | true =>
          have hskip : skipBlanks (c :: s) = skipBlanks s := by simp [skipBlanks, h]
          rw [hskip, ih]

/-- What is read depends on the text behind leading blanks alone. -/
theorem readValue_congr {s t : List Char} (h : skipBlanks s = skipBlanks t) (fuel : Nat) :
    readValue fuel s = readValue fuel t := by
  cases fuel with
  | zero => rw [readValue.eq_1, readValue.eq_1]
  | succ fuel => rw [readValue.eq_2, readValue.eq_2, h]

theorem readItems_congr {s t : List Char} (h : skipBlanks s = skipBlanks t) (fuel : Nat) :
    readItems fuel s = readItems fuel t := by
  cases fuel with
  | zero => rw [readItems.eq_1, readItems.eq_1]
  | succ fuel => rw [readItems.eq_2, readItems.eq_2, readValue_congr h]

theorem readMembers_congr {s t : List Char} (h : skipBlanks s = skipBlanks t) (fuel : Nat) :
    readMembers fuel s = readMembers fuel t := by
  cases fuel with
  | zero => rw [readMembers.eq_1, readMembers.eq_1]
  | succ fuel => rw [readMembers.eq_2, readMembers.eq_2, h]

/-- Items that are read behind a bracket are an array. -/
theorem readValue_array {fuel : Nat} {s : List Char} {items : List Json} {rest : List Char}
    (h : readItems fuel s = some (items, rest)) :
    readValue (fuel + 1) ('[' :: s) = some (.array items, rest) := by
  rw [← readItems_congr (skipBlanks_skipBlanks s)] at h
  rw [readValue.eq_2, skipBlanks_cons (by decide)]
  simp only [Char.reduceEq, if_false, if_true]
  generalize skipBlanks s = body at h
  split
  next tail =>
    -- no document starts with a closing bracket
    have hnone (fuel : Nat) : readValue fuel (']' :: tail) = none := by
      cases fuel with
      | zero => rw [readValue.eq_1]
      | succ fuel =>
          rw [readValue.eq_2, skipBlanks_cons (by decide)]
          rfl
    cases fuel with
    | zero => simp [readItems.eq_1] at h
    | succ fuel => simp [readItems.eq_2, hnone] at h
  next => rw [h]; rfl

/-- Members that are read behind a brace are an object. -/
theorem readValue_object {fuel : Nat} {s : List Char} {members : List (String × Json)}
    {rest : List Char} (h : readMembers fuel s = some (some members, rest)) :
    readValue (fuel + 1) ('\x7b' :: s) = some (.object members, rest) := by
  rw [← readMembers_congr (skipBlanks_skipBlanks s)] at h
  rw [readValue.eq_2, skipBlanks_cons (by decide)]
  simp only [Char.reduceEq, if_false, if_true]
  generalize skipBlanks s = body at h
  split
  next tail =>
    -- no name starts with a closing brace
    cases fuel with
    | zero => simp [readMembers.eq_1] at h
    | succ fuel =>
        rw [readMembers.eq_2, skipBlanks_cons (by decide)] at h
        simp at h
  next => rw [h]; rfl

/-- A text is read back as the document it was written for, whatever text stands behind it. -/
def ReadsBack (j : Json) : Prop :=
  ∀ (depth fuel : Nat) (rest : List Char), Ended rest →
    2 * (j.laidOut l depth).length ≤ fuel + 1 →
    readValue (fuel + 1) (j.laidOut l depth ++ rest) = some (j, rest)

theorem ended_blanks (blanks : List Char) (hblank : ∀ c ∈ blanks, isBlank c = true) {c : Char}
    (hc : c = ',' ∨ c = ']' ∨ c = '\x7d') (rest : List Char) : Ended (blanks ++ c :: rest) := by
  intro head hhead
  cases blanks with
  | nil =>
      obtain rfl := Option.mem_some.mp hhead
      exact Or.inr hc
  | cons blank blanks =>
      obtain rfl := Option.mem_some.mp hhead
      exact Or.inl (hblank blank List.mem_cons_self)

/-- What stands behind an item is a comma, or blanks and the closing bracket. -/
theorem ended_items (depth : Nat) (items : List Json) (rest : List Char) :
    Ended (laidOutItems l depth items ++ rest) := by
  cases items with
  | nil =>
      rw [laidOutItems, List.append_assoc]
      exact ended_blanks _ (l.gap_blank depth) (by simp) rest
  | cons j items =>
      rw [laidOutItems]
      simp only [List.cons_append]
      exact ended_blanks [] (by simp) (by simp) _

theorem ended_members (depth : Nat) (members : List (String × Json)) (rest : List Char) :
    Ended (laidOutMembers l depth members ++ rest) := by
  cases members with
  | nil =>
      rw [laidOutMembers, List.append_assoc]
      exact ended_blanks _ (l.gap_blank depth) (by simp) rest
  | cons member members =>
      obtain ⟨name, j⟩ := member
      rw [laidOutMembers]
      simp only [List.cons_append]
      exact ended_blanks [] (by simp) (by simp) _

/-- Items that are each read back are read back in order. Fuel for twice their text is enough, as
every item has a comma or the closing bracket behind it. -/
theorem readItems_laidOut {depth : Nat} {rest : List Char} {items : List Json} :
    ∀ {j : Json} {fuel : Nat}, (∀ item ∈ j :: items, ReadsBack l item) →
      2 * ((j.laidOut l (depth + 1)).length + (laidOutItems l depth items).length) ≤ fuel →
      readItems fuel (j.laidOut l (depth + 1) ++ (laidOutItems l depth items ++ rest)) =
        some (j :: items, rest) := by
  induction items with
  | nil =>
      intro j fuel hread hfuel
      rw [laidOutItems, List.length_append, List.length_singleton] at hfuel
      obtain ⟨fuel, rfl⟩ : ∃ f, fuel = f + 2 := ⟨fuel - 2, by omega⟩
      have hitem := hread j List.mem_cons_self (depth + 1) fuel _ (ended_items l depth [] rest)
        (by omega)
      rw [readItems.eq_2, hitem, laidOutItems, List.append_assoc]
      simp only [Option.bind_eq_bind, Option.bind_some, skipBlanks_append (l.gap_blank depth)]
      rfl
  | cons next items ih =>
      intro j fuel hread hfuel
      rw [laidOutItems] at hfuel
      simp only [List.length_append, List.length_cons] at hfuel
      obtain ⟨fuel, rfl⟩ : ∃ f, fuel = f + 2 := ⟨fuel - 2, by omega⟩
      have hitem := hread j List.mem_cons_self (depth + 1) fuel _
        (ended_items l depth (next :: items) rest) (by omega)
      have hnext : readItems (fuel + 1) (l.gap (depth + 1) ++ next.laidOut l (depth + 1) ++
          laidOutItems l depth items ++ rest) = some (next :: items, rest) := by
        simp only [List.append_assoc]
        rw [readItems_congr (skipBlanks_append (l.gap_blank _) _)]
        exact ih (fun item member => hread item (List.mem_cons_of_mem j member)) (by omega)
      rw [readItems.eq_2, hitem, laidOutItems]
      simp only [Option.bind_eq_bind, Option.bind_some, List.cons_append]
      rw [skipBlanks_cons (by decide)]
      simp only [hnext]
      rfl

/-- A member is read in front of a closing brace, or of a comma and other members. -/
theorem readMembers_member {name : String} {j : Json} {fuel : Nat} {text tail rest : List Char}
    {members : List (String × Json)} (hvalue : readValue fuel (text ++ tail) = some (j, tail))
    (hothers : (skipBlanks tail = '\x7d' :: rest ∧ members = []) ∨
      ∃ after, skipBlanks tail = ',' :: after ∧
        readMembers fuel after = some (some members, rest)) :
    readMembers (fuel + 1) (stringChars name ++ ':' :: (l.colon ++ (text ++ tail))) =
      some (some ((name, j) :: members), rest) := by
  rw [readMembers.eq_2, stringChars]
  simp only [List.cons_append, List.append_assoc, List.nil_append]
  rw [skipBlanks_cons (by decide)]
  simp only [readChars_string, Option.bind_eq_bind, Option.bind_some]
  rw [skipBlanks_cons (by decide)]
  simp only [readValue_congr (skipBlanks_append l.colon_blank _), hvalue, Option.bind_some,
    Option.map_some, String.ofList_toList]
  rcases hothers with ⟨hlast, rfl⟩ | ⟨after, hcomma, hmore⟩
  · simp only [hlast]
    rfl
  · simp only [hcomma, hmore]
    rfl

/-- Members whose documents are each read back are read back in order, with their names. -/
theorem readMembers_laidOut {depth : Nat} {rest : List Char} {members : List (String × Json)} :
    ∀ {name : String} {j : Json} {fuel : Nat},
      (∀ member ∈ (name, j) :: members, ReadsBack l member.2) →
      2 * ((j.laidOut l (depth + 1)).length + (laidOutMembers l depth members).length) ≤ fuel →
      readMembers fuel (stringChars name ++ ':' :: (l.colon ++ (j.laidOut l (depth + 1) ++
        (laidOutMembers l depth members ++ rest)))) = some (some ((name, j) :: members), rest) := by
  induction members with
  | nil =>
      intro name j fuel hread hfuel
      rw [laidOutMembers, List.length_append, List.length_singleton] at hfuel
      obtain ⟨fuel, rfl⟩ : ∃ f, fuel = f + 2 := ⟨fuel - 2, by omega⟩
      have hvalue : ReadsBack l j := hread (name, j) List.mem_cons_self
      have hmember := hvalue (depth + 1) fuel _ (ended_members l depth [] rest) (by omega)
      refine readMembers_member l hmember (Or.inl ⟨?_, rfl⟩)
      rw [laidOutMembers, List.append_assoc, skipBlanks_append (l.gap_blank depth)]
      rfl
  | cons next members ih =>
      intro name j fuel hread hfuel
      obtain ⟨nextName, next⟩ := next
      rw [laidOutMembers] at hfuel
      simp only [List.length_append, List.length_cons] at hfuel
      obtain ⟨fuel, rfl⟩ : ∃ f, fuel = f + 2 := ⟨fuel - 2, by omega⟩
      have hvalue : ReadsBack l j := hread (name, j) List.mem_cons_self
      have hnext : readMembers (fuel + 1) (l.gap (depth + 1) ++ (stringChars nextName ++
          ':' :: (l.colon ++ (next.laidOut l (depth + 1) ++
            (laidOutMembers l depth members ++ rest))))) =
          some (some ((nextName, next) :: members), rest) := by
        rw [readMembers_congr (skipBlanks_append (l.gap_blank _) _)]
        exact ih (fun member hmem => hread member (List.mem_cons_of_mem _ hmem)) (by omega)
      have hmember := hvalue (depth + 1) fuel _
        (ended_members l depth ((nextName, next) :: members) rest) (by omega)
      refine readMembers_member l hmember (Or.inr ⟨_, ?_, hnext⟩)
      rw [laidOutMembers]
      simp only [List.cons_append, List.append_assoc]
      exact skipBlanks_cons (by decide) _

/-- A document that starts like a numeral is one. -/
theorem readValue_numeral {c : Char} (hc : c = '-' ∨ c.isDigit = true) {fuel : Nat}
    {numeral : Numeral} {s rest : List Char} (h : readNumeral (c :: s) = some (numeral, rest)) :
    readValue (fuel + 1) (c :: s) = some (numeral.value, rest) := by
  have hother : ∀ other ∈ [' ', '\n', '\t', '\r', '"', '[', '\x7b', 'n', 't', 'f'], c ≠ other := by
    have hall : [' ', '\n', '\t', '\r', '"', '[', '\x7b', 'n', 't', 'f'].all (fun other =>
        decide (¬ (other = '-' ∨ other.isDigit = true))) = true := by decide
    rintro other member rfl
    exact of_decide_eq_true (List.all_eq_true.mp hall c member) hc
  simp only [List.forall_mem_cons] at hother
  obtain ⟨hspace, hline, htab, hreturn, hquote, hbracket, hbrace, hn, ht, hf, -⟩ := hother
  have hblank : isBlank c = false := by simp [isBlank, hspace, hline, htab, hreturn]
  rw [readValue.eq_2, skipBlanks_cons hblank]
  simp only [if_neg hquote, if_neg hbracket, if_neg hbrace, if_neg hn, if_neg ht, if_neg hf, h]
  rfl

/-- The text of an integer starts like a numeral. -/
theorem exists_toString_int (n : Int) :
    ∃ c s, (toString n).toList = c :: s ∧ (c = '-' ∨ c.isDigit = true) := by
  rw [toList_toString_int]
  cases h : Nat.toDigits 10 n.natAbs with
  | nil => exact absurd h Nat.toDigits_ne_nil
  | cons c digits =>
      have hdigit : c.isDigit = true :=
        Nat.isDigit_of_mem_toDigits (by decide) (by decide) (h ▸ List.mem_cons_self)
      by_cases hneg : n < 0
      · exact ⟨'-', c :: digits, by simp [hneg], Or.inl rfl⟩
      · exact ⟨c, digits, by simp [hneg], Or.inr hdigit⟩

/-- The text of an exact document is read back as the document. -/
theorem Exact.readsBack {j : Json} (h : Exact j) : ReadsBack l j := by
  induction h with
  | null =>
      intro depth fuel rest _ _
      rw [readValue.eq_2]
      rfl
  | bool b =>
      intro depth fuel rest _ _
      rw [readValue.eq_2]
      cases b <;> rfl
  | @int n hfits =>
      intro depth fuel rest hrest _
      obtain ⟨numeral, hread, hvalue⟩ := readNumeral_int hfits hrest
      obtain ⟨c, s, htext, hc⟩ := exists_toString_int n
      change readValue (fuel + 1) ((toString n).toList ++ rest) = _
      rw [htext] at hread ⊢
      exact (readValue_numeral hc hread).trans (by rw [hvalue])
  | string s =>
      intro depth fuel rest _ _
      rw [readValue.eq_2, laidOut, stringChars]
      simp only [List.cons_append, List.append_assoc, List.nil_append]
      rw [skipBlanks_cons (by decide)]
      simp [readChars_string]
  | @array items hitems ih =>
      intro depth fuel rest _ hfuel
      cases items with
      | nil =>
          rw [readValue.eq_2]
          rfl
      | cons j items =>
          rw [laidOut] at hfuel ⊢
          simp only [List.length_append, List.length_cons] at hfuel
          simp only [List.cons_append, List.append_assoc]
          refine readValue_array ?_
          rw [readItems_congr (skipBlanks_append (l.gap_blank (depth + 1)) _)]
          exact readItems_laidOut l ih (by omega)
  | @object members hmembers ih =>
      intro depth fuel rest _ hfuel
      cases members with
      | nil =>
          rw [readValue.eq_2]
          rfl
      | cons member members =>
          obtain ⟨name, j⟩ := member
          rw [laidOut] at hfuel ⊢
          simp only [List.length_append, List.length_cons] at hfuel
          simp only [List.cons_append, List.append_assoc]
          refine readValue_object ?_
          rw [readMembers_congr (skipBlanks_append (l.gap_blank (depth + 1)) _)]
          exact readMembers_laidOut l ih (by omega)

theorem Exact.parse?_laidOut {j : Json} (h : Exact j) :
    parse? (String.ofList (j.laidOut l 0)) = some j := by
  have hended : Ended [] := fun _ hc => nomatch hc
  have hread := h.readsBack l 0 (2 * (j.laidOut l 0).length + 1) [] hended (by omega)
  rw [List.append_nil] at hread
  unfold parse?
  rw [String.toList_ofList]
  simp only [hread]
  rfl

/-- An exact document is read back from its text without blanks. -/
theorem Exact.parse?_compact {j : Json} (h : Exact j) : parse? j.compact = some j := by
  rw [compact, compactChars_eq 0, h.parse?_laidOut]

/-- An exact document is read back from its text with a line for each item and member. -/
theorem Exact.parse?_pretty {j : Json} (h : Exact j) : parse? j.pretty = some j := by
  rw [pretty, prettyChars_eq, h.parse?_laidOut]

end JoinEngine.Json
