import SchemaRegistry.Proofs.Text.Octets
import SchemaRegistry.Schema.Canonical
/-!
# Where a comment begins

A line of a PROTOBUF schema is read from the left. Its quotation marks open and close literals, a
backslash in a literal takes the next character with it, and two slashes begin a comment where no
literal is open. `Quoting` is what a reader has to know of the characters behind it, and `Plain`
says that a line has no comment. The part of a line that is kept is plain, ends where the first
comment begins (`cutAtComment_beforeComment`), and every line without a comment is kept whole.

A reader can as well go through the octets of a line and count them (`commentStart`). Marks,
backslash and slash are ASCII, so such a reader stops at the same place, which is then the end of a
character, even though a backslash takes only the first octet of a longer character with it.
-/

set_option autoImplicit false

namespace SchemaRegistry.Canonical

open Text (encoded)

/-! ## Quoting -/

/-- What is open behind a piece of a line: nothing, a literal with the mark that will close it, or
such a literal behind a backslash. -/
inductive Quoting where
  | outside
  | inside (mark : Char)
  | escaped (mark : Char)
  deriving DecidableEq

namespace Quoting

def step : Quoting → Char → Quoting
  | .outside, c => if c = '"' ∨ c = '\'' then .inside c else .outside
  | .inside mark, c =>
    if c = '\\' then .escaped mark else if c = mark then .outside else .inside mark
  | .escaped mark, _ => .inside mark

/-- What is open behind further characters. -/
def after (q : Quoting) (piece : List Char) : Quoting :=
  piece.foldl step q

@[simp] theorem after_nil (q : Quoting) : q.after [] = q := rfl

@[simp] theorem after_cons (q : Quoting) (c : Char) (piece : List Char) :
    q.after (c :: piece) = (q.step c).after piece := rfl

/-- Whether a comment begins at the front of what is left of a line. -/
def BeginsComment (q : Quoting) (rest : List Char) : Prop :=
  q = .outside ∧ ['/', '/'] <+: rest

instance (q : Quoting) (rest : List Char) : Decidable (q.BeginsComment rest) :=
  inferInstanceAs (Decidable (_ ∧ _))

/-- A comment begins with two slashes, and only outside of literals. -/
theorem beginsComment_cons_iff {q : Quoting} {c : Char} {rest : List Char} :
    q.BeginsComment (c :: rest) ↔ q = .outside ∧ c = '/' ∧ rest.head? = some '/' := by
  unfold BeginsComment
  refine and_congr_right fun _ => ?_
  cases rest with
  | nil => simp
  | cons d rest => simp [eq_comm]

/-- A comment that begins in front of some characters begins in front of more of them. -/
theorem BeginsComment.mono {q : Quoting} {piece rest : List Char} (h : q.BeginsComment piece)
    (longer : piece <+: rest) : q.BeginsComment rest :=
  ⟨h.1, h.2.trans longer⟩

end Quoting

/-! ## Plain lines -/

/-- Whether no comment begins in the rest of a line. -/
def Plain (q : Quoting) (rest : List Char) : Prop :=
  ∀ piece more, rest = piece ++ more → ¬ (q.after piece).BeginsComment more

theorem plain_nil (q : Quoting) : Plain q [] := by
  intro piece more h begins
  obtain ⟨rfl, rfl⟩ := List.append_eq_nil_iff.mp h.symm
  exact absurd begins.2 (by decide)

/-- Whether a line is without comment is asked character by character, each with the quoting at
which it stands. -/
theorem plain_cons_iff {q : Quoting} {c : Char} {rest : List Char} :
    Plain q (c :: rest) ↔ ¬ q.BeginsComment (c :: rest) ∧ Plain (q.step c) rest := by
  constructor
  · intro h
    refine ⟨h [] (c :: rest) rfl, ?_⟩
    intro piece more split
    exact h (c :: piece) more (by rw [split, List.cons_append])
  · rintro ⟨here, behind⟩ piece more split
    cases piece with
    | nil =>
      rw [List.nil_append] at split
      rw [← split]
      exact here
    | cons d piece =>
      obtain ⟨rfl, rest_eq⟩ := List.cons.inj split
      exact behind piece more rest_eq

/-- A piece from the front of a plain line is plain. -/
theorem Plain.of_isPrefix {q : Quoting} {piece rest : List Char} (h : Plain q rest)
    (shorter : piece <+: rest) : Plain q piece := by
  obtain ⟨behind, rfl⟩ := shorter
  intro front more split begins
  refine h front (more ++ behind) ?_ (begins.mono (List.prefix_append more behind))
  rw [split, List.append_assoc]

/-! ## The line up to a comment -/

/-- The rest of a line up to the first comment. -/
def uncommented (q : Quoting) : List Char → List Char
  | [] => []
  | c :: rest => if q.BeginsComment (c :: rest) then [] else c :: uncommented (q.step c) rest

/-- The quoting that the mark of an open literal stands for. -/
def quotingOf : Option Char → Quoting
  | none => .outside
  | some mark => .inside mark

/-- Going on by one character at a time comes to the same. -/
theorem beforeComment_eq_uncommented (quote : Option Char) (line : List Char) :
    beforeComment quote line = uncommented (quotingOf quote) line := by
  fun_induction beforeComment quote line with
  | case1 => rfl
  | case2 quote c =>
    rw [uncommented, if_neg, uncommented]
    intro begins
    exact absurd (Quoting.beginsComment_cons_iff.mp begins).2.2 (by decide)
  | case3 d rest mark ih =>
    -- No comment begins at a backslash, nor at the character behind it, which is in the literal.
    have here : ¬ (Quoting.inside mark).BeginsComment ('\\' :: d :: rest) := fun h => nomatch h.1
    have behind : ¬ (Quoting.escaped mark).BeginsComment (d :: rest) := fun h => nomatch h.1
    rw [quotingOf, uncommented, if_neg here, Quoting.step, if_pos rfl, uncommented, if_neg behind,
      ih]
    rfl
  | case4 d rest c unescaped ih =>
    have here : ¬ (Quoting.inside c).BeginsComment (c :: d :: rest) := fun h => nomatch h.1
    rw [quotingOf, uncommented, if_neg here, Quoting.step, if_neg unescaped, if_pos rfl, ih]
    rfl
  | case5 c d rest mark unescaped unclosed ih =>
    have here : ¬ (Quoting.inside mark).BeginsComment (c :: d :: rest) := fun h => nomatch h.1
    rw [quotingOf, uncommented, if_neg here, Quoting.step, if_neg unescaped, if_neg unclosed, ih]
    rfl
  | case6 c d rest opens ih =>
    have here : ¬ Quoting.outside.BeginsComment (c :: d :: rest) := by
      intro begins
      obtain ⟨-, rfl, -⟩ := Quoting.beginsComment_cons_iff.mp begins
      exact absurd opens (by decide)
    rw [quotingOf, uncommented, if_neg here, Quoting.step, if_pos opens, ih]
    rfl
  | case7 c d rest unopened slashes =>
    obtain ⟨rfl, rfl⟩ := slashes
    rw [quotingOf, uncommented, if_pos]
    exact Quoting.beginsComment_cons_iff.mpr ⟨rfl, rfl, rfl⟩
  | case8 c d rest unopened unslashed ih =>
    have here : ¬ Quoting.outside.BeginsComment (c :: d :: rest) := by
      intro begins
      obtain ⟨-, hc, hd⟩ := Quoting.beginsComment_cons_iff.mp begins
      exact unslashed ⟨hc, Option.some.inj hd⟩
    rw [quotingOf, uncommented, if_neg here, Quoting.step, if_neg unopened, ih]
    rfl

theorem uncommented_isPrefix (q : Quoting) (line : List Char) : uncommented q line <+: line := by
  fun_induction uncommented q line with
  | case1 q => exact List.prefix_refl []
  | case2 q c rest begins => exact List.nil_prefix
  | case3 q c rest goesOn ih => exact (List.prefix_cons_inj c).mpr ih

/-- In what is left of a line no comment begins, since the first one was the end of it. -/
theorem plain_uncommented (q : Quoting) (line : List Char) : Plain q (uncommented q line) := by
  fun_induction uncommented q line with
  | case1 q => exact plain_nil q
  | case2 q c rest begins => exact plain_nil q
  | case3 q c rest goesOn ih =>
    refine plain_cons_iff.mpr ⟨fun begins => goesOn (begins.mono ?_), ih⟩
    exact (List.prefix_cons_inj c).mpr (uncommented_isPrefix _ _)

theorem uncommented_of_plain {q : Quoting} {line : List Char} (h : Plain q line) :
    uncommented q line = line := by
  induction line generalizing q with
  | nil => rfl
  | cons c rest ih =>
    obtain ⟨here, behind⟩ := plain_cons_iff.mp h
    rw [uncommented, if_neg here, ih behind]

/-- The same of the program's own cut, which is the independent one at a line that starts outside of
literals. -/
theorem beforeComment_of_plain {line : List Char} (h : Plain .outside line) :
    beforeComment none line = line := by
  rw [beforeComment_eq_uncommented]
  exact uncommented_of_plain h

/-- Whether a line is cut where its first comment begins, or kept whole for want of one. -/
structure CutAtComment (line kept : List Char) : Prop where
  isPrefix : kept <+: line
  /-- No comment begins before the cut. -/
  first : ∀ piece more, line = piece ++ more → piece.length < kept.length →
    ¬ (Quoting.outside.after piece).BeginsComment more
  /-- What is cut off begins with a comment. -/
  begins : ∀ more, line = kept ++ more → more ≠ [] →
    (Quoting.outside.after kept).BeginsComment more

/-- In front of the cut no comment begins. The induction is on the reader: what it passes over is
not the place of a comment, and behind that it reads on in the same way. -/
theorem uncommented_first (q : Quoting) (line : List Char) : ∀ piece more,
    line = piece ++ more → piece.length < (uncommented q line).length →
    ¬ (q.after piece).BeginsComment more := by
  fun_induction uncommented q line with
  | case1 q => exact fun piece more _ shorter => absurd shorter (Nat.not_lt_zero _)
  | case2 q c rest begins => exact fun piece more _ shorter => absurd shorter (Nat.not_lt_zero _)
  | case3 q c rest goesOn ih =>
    intro piece more split shorter
    cases piece with
    | nil =>
      rw [List.nil_append] at split
      rw [← split]
      exact goesOn
    | cons d piece =>
      obtain ⟨rfl, rest_eq⟩ := List.cons.inj split
      rw [List.length_cons, List.length_cons] at shorter
      exact ih piece more rest_eq (by omega)

/-- What a reader leaves off begins with a comment: it stops for nothing else. -/
theorem uncommented_begins (q : Quoting) (line : List Char) : ∀ more,
    line = uncommented q line ++ more → more ≠ [] →
    (q.after (uncommented q line)).BeginsComment more := by
  fun_induction uncommented q line with
  | case1 q =>
    intro more split some
    exact absurd split.symm some
  | case2 q c rest begins =>
    intro more split _
    rw [List.nil_append] at split
    rw [← split]
    exact begins
  | case3 q c rest goesOn ih =>
    intro more split some
    exact ih more (List.cons.inj split).2 some

/-- The line up to a comment is cut where the first comment begins. -/
theorem cutAtComment_beforeComment (line : List Char) :
    CutAtComment line (beforeComment none line) := by
  rw [beforeComment_eq_uncommented]
  exact ⟨uncommented_isPrefix _ line, uncommented_first _ line, uncommented_begins _ line⟩

/-- There is one place to cut a line at. Of two, the one in front would be where a comment begins,
and the other would have passed it over. -/
theorem CutAtComment.unique {line a b : List Char} (ha : CutAtComment line a)
    (hb : CutAtComment line b) : a = b := by
  have longer : ∀ {short long : List Char}, CutAtComment line short → CutAtComment line long →
      ¬ short.length < long.length := by
    intro short long hshort hlong shorter
    obtain ⟨more, split⟩ := hshort.isPrefix
    have some : more ≠ [] := by
      rintro rfl
      have whole := hlong.isPrefix.length_le
      rw [← split, List.append_nil] at whole
      omega
    exact hlong.first short more split.symm shorter (hshort.begins more split.symm some)
  have sameLength : a.length = b.length :=
    Nat.le_antisymm (Nat.le_of_not_lt (longer hb ha)) (Nat.le_of_not_lt (longer ha hb))
  rw [List.prefix_iff_eq_take.mp ha.isPrefix, List.prefix_iff_eq_take.mp hb.isPrefix, sameLength]

/-- So what is kept in front of a comment can be said without reading the line. -/
theorem cutAtComment_iff {line kept : List Char} :
    CutAtComment line kept ↔ beforeComment none line = kept := by
  constructor
  · exact (cutAtComment_beforeComment line).unique
  · rintro rfl
    exact cutAtComment_beforeComment line

/-- A character at the end of a line that begins no comment is kept or left off, and nothing else
changes. It is left off if it stands behind a comment. -/
theorem uncommented_concat (q : Quoting) (line : List Char) {c : Char} (hc : c ≠ '/') :
    uncommented q (line ++ [c]) = uncommented q line ∨
      uncommented q (line ++ [c]) = uncommented q line ++ [c] := by
  induction line generalizing q with
  | nil =>
    have here : ¬ q.BeginsComment [c] := fun begins =>
      hc (Quoting.beginsComment_cons_iff.mp begins).2.1
    have single : uncommented q [c] = [c] := by
      rw [uncommented, if_neg here, uncommented]
    exact Or.inr single
  | cons d rest ih =>
    -- The character is not the second slash of a comment either.
    have same : q.BeginsComment (d :: (rest ++ [c])) ↔ q.BeginsComment (d :: rest) := by
      rw [Quoting.beginsComment_cons_iff, Quoting.beginsComment_cons_iff]
      cases rest with
      | nil => simp [hc]
      | cons e rest => exact Iff.rfl
    rw [List.cons_append, uncommented, uncommented]
    by_cases begins : q.BeginsComment (d :: rest)
    · rw [if_pos begins, if_pos (same.mpr begins)]
      exact Or.inl rfl
    · rw [if_neg begins, if_neg (mt same.mp begins), List.cons_append, List.cons.injEq,
        List.cons.injEq]
      exact (ih (q.step d)).imp (And.intro rfl) (And.intro rfl)

/-! ## Octets of a line -/

/-- How many octets stand before a comment, `quote` being the mark of an open literal. -/
def commentStart (quote : Option UInt8) : Octets → Nat
  | [] => 0
  | b :: rest =>
    match quote with
    | some mark =>
      if b = 0x5c then
        match rest with
        | [] => 1
        | _ :: rest => commentStart quote rest + 2
      else if b = mark then commentStart none rest + 1
      else commentStart quote rest + 1
    | none =>
      if b = 0x22 ∨ b = 0x27 then commentStart (some b) rest + 1
      else if b = 0x2f ∧ rest.head? = some 0x2f then 0
      else commentStart none rest + 1

/-- Outside of literals the cut looks at one octet, and at a slash also at the one behind it. -/
theorem commentStart_none_cons (b : UInt8) (rest : Octets) :
    commentStart none (b :: rest) =
      if b = 0x22 ∨ b = 0x27 then commentStart (some b) rest + 1
      else if b = 0x2f ∧ rest.head? = some 0x2f then 0
      else commentStart none rest + 1 := rfl

/-- Inside a literal all octets but the mark are passed over. An escape takes two octets, which is
why it is not among these. -/
theorem commentStart_some_cons {mark b : UInt8} (unescaped : b ≠ 0x5c) (rest : Octets) :
    commentStart (some mark) (b :: rest) =
      if b = mark then commentStart none rest + 1 else commentStart (some mark) rest + 1 := by
  cases rest <;> simp [commentStart, unescaped]

/-- Octets above ASCII are passed over, whatever is open. -/
theorem commentStart_append_of_high {quote : Option UInt8} (marks : ∀ mark ∈ quote, mark < 0x80)
    {bs : Octets} (high : ∀ b ∈ bs, 0x80 ≤ b) (rest : Octets) :
    commentStart quote (bs ++ rest) = commentStart quote rest + bs.length := by
  induction bs with
  | nil => rfl
  | cons b bs ih =>
    obtain ⟨first, others⟩ := List.forall_mem_cons.mp high
    have apart : ∀ d : UInt8, d < 0x80 → b ≠ d := by
      rintro d low rfl
      exact absurd first (UInt8.not_le.mpr low)
    rw [List.cons_append, List.length_cons]
    cases quote with
    | none =>
      have double : b ≠ 0x22 := apart _ (by decide)
      have single : b ≠ 0x27 := apart _ (by decide)
      have slash : b ≠ 0x2f := apart _ (by decide)
      rw [commentStart_none_cons, if_neg (by simp [double, single]), if_neg (by simp [slash]),
        ih others]
      omega
    | some mark =>
      have backslash : b ≠ 0x5c := apart _ (by decide)
      rw [commentStart_some_cons backslash, if_neg (apart mark (marks mark rfl)), ih others]
      omega

/-- Inside a literal every character but its mark and the backslash is passed over. -/
theorem commentStart_inside {mark c : Char} (hmark : mark.toNat < 0x80) (unescaped : c ≠ '\\')
    (unclosed : c ≠ mark) (rest : Octets) :
    commentStart (some (Text.asciiOctet mark)) (String.utf8EncodeChar c ++ rest) =
      commentStart (some (Text.asciiOctet mark)) rest + (String.utf8EncodeChar c).length := by
  by_cases ascii : c.toNat < 0x80
  · have backslash : Text.asciiOctet c ≠ Text.asciiOctet '\\' :=
      mt (Text.asciiOctet_inj ascii (by decide)).mp unescaped
    have closing := mt (Text.asciiOctet_inj ascii hmark).mp unclosed
    rw [Text.utf8EncodeChar_eq_asciiOctet ascii, List.singleton_append, List.length_singleton]
    rw [commentStart_some_cons backslash, if_neg closing]
  · refine commentStart_append_of_high ?_ (fun b hb => ?_) rest
    · rintro _ ⟨⟩
      exact Text.asciiOctet_lt hmark
    · exact Text.le_of_mem_utf8EncodeChar (Nat.le_of_not_lt ascii) hb

/-- Outside of literals every character is passed over that neither opens one nor begins a
comment. -/
theorem commentStart_outside {c : Char} (unopened : ¬ (c = '"' ∨ c = '\'')) {rest : List Char}
    (slashes : ¬ (c = '/' ∧ rest.head? = some '/')) :
    commentStart none (String.utf8EncodeChar c ++ encoded rest) =
      commentStart none (encoded rest) + (String.utf8EncodeChar c).length := by
  by_cases ascii : c.toNat < 0x80
  · have same : ∀ {a : Char}, a.toNat < 0x80 → (Text.asciiOctet c = Text.asciiOctet a ↔ c = a) :=
      fun ha => Text.asciiOctet_inj ascii ha
    have opens : ¬ (Text.asciiOctet c = Text.asciiOctet '"' ∨
        Text.asciiOctet c = Text.asciiOctet '\'') := by
      rw [same (by decide), same (by decide)]
      exact unopened
    have begins : ¬ (Text.asciiOctet c = Text.asciiOctet '/' ∧
        (encoded rest).head? = some (Text.asciiOctet '/')) := by
      rw [same (by decide), Text.head?_encoded_iff (by decide)]
      exact slashes
    rw [Text.utf8EncodeChar_eq_asciiOctet ascii, List.singleton_append, List.length_singleton]
    exact (if_neg opens).trans (if_neg begins)
  · refine commentStart_append_of_high (by simp) (fun b hb => ?_) _
    exact Text.le_of_mem_utf8EncodeChar (Nat.le_of_not_lt ascii) hb

/-- The octets in front of a comment are those of the characters in front of it. -/
theorem commentStart_encoded {quote : Option Char}
    (marks : ∀ mark ∈ quote, mark = '"' ∨ mark = '\'') (line : List Char) :
    commentStart (quote.map Text.asciiOctet) (encoded line) =
      (encoded (beforeComment quote line)).length := by
  have ascii : ∀ {mark : Char}, mark ∈ quote → mark.toNat < 0x80 := by
    intro mark hmark
    rcases marks mark hmark with rfl | rfl <;> decide
  fun_induction beforeComment quote line with
  | case1 => rfl
  | case2 quote c =>
    rw [Text.encoded_cons, Text.encoded_nil]
    cases quote with
    | none =>
      by_cases opens : c = '"' ∨ c = '\''
      · rcases opens with rfl | rfl <;> decide
      · exact (@commentStart_outside c opens [] (by simp)).trans (by simp [commentStart])
    | some mark =>
      by_cases escapes : c = '\\'
      · subst escapes
        rfl
      by_cases closes : c = mark
      · subst closes
        rcases marks c rfl with rfl | rfl <;> decide
      · exact (commentStart_inside (ascii rfl) escapes closes []).trans (by simp [commentStart])
  | case3 d rest mark ih =>
    -- The octets of the escaped character behind its first are above ASCII.
    obtain ⟨b, more, written, high⟩ := Text.exists_utf8EncodeChar d
    have backslash : String.utf8EncodeChar '\\' = [0x5c] := by decide
    have passed := @commentStart_append_of_high (some (Text.asciiOctet mark))
      (by rintro _ ⟨⟩; exact Text.asciiOctet_lt (ascii rfl)) _ high (encoded rest)
    have further := ih marks ascii
    rw [Option.map_some] at further ⊢
    simp only [Text.encoded_cons, backslash, written, List.cons_append, List.nil_append,
      List.length_cons, List.length_append, ← further]
    change commentStart _ (more ++ encoded rest) + 2 = _
    rw [passed]
    omega
  | case4 d rest c unescaped ih =>
    have backslash : Text.asciiOctet c ≠ Text.asciiOctet '\\' :=
      mt (Text.asciiOctet_inj (ascii rfl) (by decide)).mp unescaped
    have further := ih nofun nofun
    rw [Text.encoded_cons c, Text.encoded_cons c, List.length_append, ← further, Option.map_some,
      Text.utf8EncodeChar_eq_asciiOctet (ascii rfl), List.singleton_append,
      commentStart_some_cons backslash, if_pos rfl]
    exact Nat.add_comm _ _
  | case5 c d rest mark unescaped unclosed ih =>
    rw [Text.encoded_cons c, Text.encoded_cons c, List.length_append, ← ih marks ascii,
      Option.map_some, commentStart_inside (ascii rfl) unescaped unclosed]
    exact Nat.add_comm _ _
  | case6 c d rest opens ih =>
    have further := ih (by rintro _ ⟨⟩; exact opens)
      (by rintro _ ⟨⟩; rcases opens with rfl | rfl <;> decide)
    rw [Text.encoded_cons c, Text.encoded_cons c, List.length_append, ← further, Option.map_none]
    rcases opens with rfl | rfl <;> exact Nat.add_comm _ _
  | case7 c d rest unopened slashes =>
    obtain ⟨rfl, rfl⟩ := slashes
    rfl
  | case8 c d rest unopened unslashed ih =>
    have slashes : ¬ (c = '/' ∧ (d :: rest).head? = some '/') := by
      rw [List.head?_cons, Option.some_inj]
      exact unslashed
    rw [Text.encoded_cons c, Text.encoded_cons c, List.length_append, ← ih marks ascii,
      Option.map_none, commentStart_outside unopened slashes]
    exact Nat.add_comm _ _

end SchemaRegistry.Canonical
