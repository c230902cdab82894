import Mathlib.Data.List.Induction
import Mathlib.Data.List.Nodup
import Mathlib.Data.String.Basic
import SchemaRegistry.Http.Message
import SchemaRegistry.Proofs.Text.Octets
/-!
# Headers that are carried

Between what a client sends and what a node carries along there are four steps: values that are not
visible are left out, then names that the whitelist does not have, names are put in lower case, and
of several headers of one name the last is kept. The first two look at one header at a time, so what
they leave out can as well be left out beforehand. `Headers.listed` is what is left, said without
any of the steps, and `Request.carried_eq` says that the node carries what is made of that and of
nothing else.

Keeping the last of a name means that nothing else may take its place. A header that is put among
others takes the place of one of its own name and of no other, as long as the others are in the
order of their names. They always are, and so what is there in the end is known
(`Headers.mem_ofList_iff`).
-/

set_option autoImplicit false

namespace SchemaRegistry

/-! ## Visible text -/

namespace Text

/-- Whether an octet is a visible character, a space or a tab. -/
def isVisible (b : UInt8) : Bool :=
  (0x20 ≤ b && b < 0x7f) || b == 0x09

/-- What is visible is ASCII, so its octets are its characters. -/
theorem lt_of_isVisible {b : UInt8} (h : isVisible b = true) : b.toNat < 0x80 := by
  simp only [isVisible, Bool.or_eq_true, Bool.and_eq_true, decide_eq_true_eq, beq_iff_eq] at h
  rcases h with ⟨-, below⟩ | rfl
  · rw [UInt8.lt_iff_toNat_lt] at below
    exact below.trans (by decide)
  · decide

/-- Octets that are visible are those of a text. -/
theorem exists_octets_eq {value : Octets} (h : value.all isVisible = true) :
    ∃ text, octets text = value := by
  refine ⟨String.ofList (value.map fun b => Char.ofNat b.toNat), ?_⟩
  rw [octets_ofList]
  induction value with
  | nil => rfl
  | cons b rest ih =>
    rw [List.all_cons, Bool.and_eq_true] at h
    have low := lt_of_isVisible h.1
    have same : (Char.ofNat b.toNat).toNat = b.toNat := by
      rw [Char.ofNat, dif_pos (Or.inl (by omega))]
      rfl
    rw [List.map_cons, encoded_cons, ih h.2, utf8EncodeChar_of_ascii (by omega), same,
      UInt8.ofNat_toNat, List.singleton_append]

end Text

namespace Headers

/-! ## Headers in the order of names -/

/-- Whether headers are in the order of their names, each name once. -/
abbrev InOrder (headers : Headers) : Prop :=
  headers.Pairwise fun a b => a.1 < b.1

/-- A header that is put among others in order takes the place of one of its own name, and of no
other. -/
theorem mem_insert_iff {name value : String} {kept : Headers} (h : InOrder kept)
    {p : String × String} :
    p ∈ insert name value kept ↔ p = (name, value) ∨ (p ∈ kept ∧ p.1 ≠ name) := by
  induction kept with
  | nil => simp [insert]
  | cons first rest ih =>
    obtain ⟨n, v⟩ := first
    obtain ⟨hfirst, hrest⟩ := List.pairwise_cons.mp h
    -- What is behind a name in order has other names.
    have apart : ∀ q ∈ rest, name ≤ n → q.1 ≠ name := by
      intro q hq hle
      exact (hle.trans_lt (hfirst q hq)).ne'
    rw [insert]
    split
    · rename_i before
      constructor
      · intro hp
        rcases List.mem_cons.mp hp with rfl | hp
        · exact Or.inl rfl
        · refine Or.inr ⟨hp, ?_⟩
          rcases List.mem_cons.mp hp with rfl | hp
          · exact before.ne'
          · exact apart p hp before.le
      · rintro (rfl | ⟨hp, -⟩)
        · exact List.mem_cons_self
        · exact List.mem_cons_of_mem _ hp
    · split
      · rename_i same
        subst same
        constructor
        · intro hp
          rcases List.mem_cons.mp hp with rfl | hp
          · exact Or.inl rfl
          · exact Or.inr ⟨List.mem_cons_of_mem _ hp, apart p hp le_rfl⟩
        · rintro (rfl | ⟨hp, other⟩)
          · exact List.mem_cons_self
          · rcases List.mem_cons.mp hp with rfl | hp
            · exact absurd rfl other
            · exact List.mem_cons_of_mem _ hp
      · rename_i other
        rw [List.mem_cons, ih hrest, List.mem_cons]
        constructor
        · rintro (rfl | rfl | ⟨hp, hne⟩)
          · exact Or.inr ⟨Or.inl rfl, fun same => other same.symm⟩
          · exact Or.inl rfl
          · exact Or.inr ⟨Or.inr hp, hne⟩
        · rintro (rfl | ⟨rfl | hp, hne⟩)
          · exact Or.inr (Or.inl rfl)
          · exact Or.inl rfl
          · exact Or.inr (Or.inr ⟨hp, hne⟩)

/-- A header is put in its place by name, over one of the same name. -/
theorem inOrder_insert {kept : Headers} (h : InOrder kept) (name value : String) :
    InOrder (insert name value kept) := by
  induction kept with
  | nil => exact List.pairwise_singleton _ _
  | cons first rest ih =>
    obtain ⟨n, v⟩ := first
    obtain ⟨hfirst, hrest⟩ := List.pairwise_cons.mp h
    rw [insert]
    split
    · rename_i before
      refine List.pairwise_cons.mpr ⟨fun q hq => ?_, h⟩
      rcases List.mem_cons.mp hq with rfl | hq
      · exact before
      · exact before.trans (hfirst q hq)
    · split
      · rename_i same
        subst same
        exact List.pairwise_cons.mpr ⟨hfirst, hrest⟩
      · rename_i before other
        refine List.pairwise_cons.mpr ⟨fun q hq => ?_, ih hrest⟩
        -- What is neither in front of the first name nor the same is behind it.
        rcases (mem_insert_iff hrest).mp hq with rfl | ⟨hq, -⟩
        · exact lt_of_le_of_ne (not_lt.mp before) (Ne.symm other)
        · exact hfirst q hq

/-! ## The last header of a name -/

/-- The list is gone through from the front, so the last header is put in last and over all others
of its name. -/
theorem ofList_concat (headers : List (String × String)) (p : String × String) :
    ofList (headers ++ [p]) = (ofList headers).insert p.1 p.2 := by
  rw [ofList, List.foldl_concat]
  rfl

/-- However headers were sent, they are kept in the order of their names with each name once. -/
theorem inOrder_ofList (headers : List (String × String)) : InOrder (ofList headers) := by
  induction headers using List.reverseRecOn with
  | nil => exact List.Pairwise.nil
  | append_singleton headers p ih =>
    rw [ofList_concat]
    exact inOrder_insert ih p.1 p.2

/-- Whether a header is the last of its name. -/
def IsLast {α : Type} (p : String × α) (headers : List (String × α)) : Prop :=
  ∃ before after, headers = before ++ p :: after ∧ ∀ q ∈ after, q.1 ≠ p.1

theorem IsLast.mem {α : Type} {p : String × α} {headers : List (String × α)}
    (h : IsLast p headers) : p ∈ headers := by
  obtain ⟨before, after, rfl, -⟩ := h
  exact List.mem_append_right _ List.mem_cons_self

/-- One more header is the last of its name, and it takes that from the one before. -/
theorem isLast_concat_iff {α : Type} {p q : String × α} {headers : List (String × α)} :
    IsLast p (headers ++ [q]) ↔ p = q ∨ (IsLast p headers ∧ p.1 ≠ q.1) := by
  constructor
  · rintro ⟨before, after, same, later⟩
    -- The header at the end is the one in question, or one behind it.
    cases after using List.reverseRecOn with
    | nil =>
      obtain ⟨-, hlast⟩ := List.append_inj' same rfl
      exact Or.inl (List.singleton_inj.mp hlast).symm
    | append_singleton after last =>
      rw [← List.cons_append, ← List.append_assoc] at same
      obtain ⟨rfl, hlast⟩ := List.append_inj' same rfl
      rw [List.singleton_inj.mp hlast]
      have hne := later last (List.mem_append_right _ (List.mem_singleton_self _))
      exact Or.inr ⟨⟨before, after, rfl, fun r hr => later r (List.mem_append_left _ hr)⟩, hne.symm⟩
  · rintro (rfl | ⟨⟨before, after, rfl, later⟩, hne⟩)
    · exact ⟨headers, [], rfl, nofun⟩
    · refine ⟨before, after ++ [q], by simp, ?_⟩
      intro r hr
      rcases List.mem_append.mp hr with hr | hr
      · exact later r hr
      · rw [List.mem_singleton.mp hr]
        exact hne.symm

/-- What is kept of a list of headers is the last of each name. -/
theorem mem_ofList_iff {headers : List (String × String)} {p : String × String} :
    p ∈ ofList headers ↔ IsLast p headers := by
  induction headers using List.reverseRecOn with
  | nil =>
    refine ⟨nofun, ?_⟩
    rintro ⟨before, after, same, -⟩
    exact absurd same.symm (by simp)
  | append_singleton headers q ih =>
    rw [ofList_concat, mem_insert_iff (inOrder_ofList headers), ih, isLast_concat_iff]

/-- A name that is there has a last header. -/
theorem exists_isLast {α : Type} {headers : List (String × α)} {p : String × α} (h : p ∈ headers) :
    ∃ value, IsLast (p.1, value) headers := by
  induction headers using List.reverseRecOn with
  | nil => cases h
  | append_singleton headers q ih =>
    by_cases same : p.1 = q.1
    · exact ⟨q.2, isLast_concat_iff.mpr (Or.inl (by rw [same]))⟩
    · have earlier : p ∈ headers := by
        rcases List.mem_append.mp h with h | h
        · exact h
        · rw [List.mem_singleton.mp h] at same
          exact absurd rfl same
      obtain ⟨value, last⟩ := ih earlier
      exact ⟨value, isLast_concat_iff.mpr (Or.inr ⟨last, same⟩)⟩

/-! ## What a whitelist lets through -/

/-- The headers of a request that are on a whitelist and visible, by their names in lower case. -/
def listed (whitelist : List String) (sent : List (String × Octets)) : List (String × Octets) :=
  (sent.filter fun (name, value) =>
      (whitelist.map lowerName).contains (lowerName name) && value.all Text.isVisible).map
    fun (name, value) => (lowerName name, value)

/-- A name is listed whichever way its letters are written, on either side. -/
theorem isListed_eq (whitelist : List String) (name : String) :
    isListed whitelist name = (whitelist.map lowerName).contains (lowerName name) := by
  have same : ∀ entry, Format.sameName entry name = (lowerName name == lowerName entry) := by
    intro entry
    rw [Format.sameName, lowerName, lowerName, Bool.eq_iff_iff, beq_iff_eq, beq_iff_eq,
      String.ofList_inj, eq_comm]
  rw [isListed, List.contains_eq_any_beq, List.any_map]
  exact congrArg (List.any whitelist) (funext same)

/-- The text of visible octets. -/
def textOf (value : Octets) : String :=
  (Text.ofOctets? value).getD ""

@[simp] theorem textOf_octets (text : String) : textOf (Text.octets text) = text := by
  rw [textOf, Text.ofOctets?_octets, Option.getD_some]

theorem octets_textOf {value : Octets} (h : value.all Text.isVisible = true) :
    Text.octets (textOf value) = value := by
  obtain ⟨text, rfl⟩ := Text.exists_octets_eq h
  rw [textOf_octets]

/-- Visible characters are well formed as text, so such a value can always be read as one. -/
theorem ofOctets?_of_isVisible {value : Octets} (h : value.all Text.isVisible = true) :
    Text.ofOctets? value = some (textOf value) := by
  obtain ⟨text, rfl⟩ := Text.exists_octets_eq h
  rw [textOf_octets, Text.ofOctets?_octets]

/-- A value with other characters in it is left out, whether or not its name is listed. -/
theorem visible_of_mem_listed {whitelist : List String} {sent : List (String × Octets)}
    {h : String × Octets} (hh : h ∈ listed whitelist sent) : h.2.all Text.isVisible = true := by
  obtain ⟨header, hheader, rfl⟩ := List.mem_map.mp hh
  have kept := (List.mem_filter.mp hheader).2
  rw [Bool.and_eq_true] at kept
  exact kept.2

end Headers

/-- The headers of a request that are text are the visible ones. -/
theorem Request.textHeaders_eq (r : Request) :
    r.textHeaders =
      (r.headers.filter fun (_, value) => value.all Text.isVisible).map
        fun (name, value) => (name, Headers.textOf value) := by
  rw [textHeaders]
  induction r.headers with
  | nil => rfl
  | cons header rest ih =>
    obtain ⟨name, value⟩ := header
    rw [List.filter_cons]
    by_cases visible : value.all Text.isVisible = true
    · rw [if_pos visible, List.map_cons, ← ih]
      refine List.filterMap_cons_some ?_
      exact (if_pos visible).trans (by rw [Headers.ofOctets?_of_isVisible visible, Option.map_some])
    · rw [if_neg visible, ← ih]
      exact List.filterMap_cons_none (if_neg visible)

/-- What a node carries along is made of the listed headers alone. -/
theorem Request.carried_eq (r : Request) (whitelist : List String) :
    r.carried whitelist =
      .ofList ((Headers.listed whitelist r.headers).map fun (name, value) =>
        (name, Headers.textOf value)) := by
  rw [carried, Headers.filter, textHeaders_eq, Headers.listed, List.filter_map, List.map_map,
    List.map_map, List.filter_filter]
  have same : ∀ header : String × Octets,
      (Headers.isListed whitelist header.1 && header.2.all Text.isVisible) =
        ((whitelist.map Headers.lowerName).contains (Headers.lowerName header.1) &&
          header.2.all Text.isVisible) := by
    intro header
    rw [Headers.isListed_eq]
  exact congrArg (fun p => Headers.ofList ((r.headers.filter p).map _)) (funext same)

/-- What is known of the headers that are carried along, of those that were sent. -/
structure Headers.CarriedLaws (whitelist : List String) (sent : List (String × Octets))
    (carried : Headers) : Prop where
  inOrder : carried.InOrder
  /-- Of every listed name there is one header. -/
  once : ∀ header ∈ Headers.listed whitelist sent, ∃! value, (header.1, value) ∈ carried
  /-- It has the value of the last that is listed, and there is no other. -/
  last : ∀ name value, (name, value) ∈ carried ↔
    Headers.IsLast (name, Text.octets value) (Headers.listed whitelist sent)

/-- The last header of a name is the last one when the values are read as text. -/
theorem Headers.isLast_map_textOf_iff {listed : List (String × Octets)}
    (visible : ∀ header ∈ listed, header.2.all Text.isVisible = true) {name value : String} :
    IsLast (name, value) (listed.map fun (name, value) => (name, textOf value)) ↔
      IsLast (name, Text.octets value) listed := by
  constructor
  · rintro ⟨before, after, same, later⟩
    obtain ⟨before', rest, rfl, rfl, hrest⟩ := List.map_eq_append_iff.mp same
    obtain ⟨header, after', rfl, hheader, rfl⟩ := List.map_eq_cons_iff.mp hrest
    obtain ⟨n, v⟩ := header
    obtain ⟨rfl, rfl⟩ := Prod.mk.inj hheader
    have shown := visible (n, v) (List.mem_append_right _ List.mem_cons_self)
    refine ⟨before', after', by rw [octets_textOf shown], fun q hq => ?_⟩
    exact later (q.1, textOf q.2) (List.mem_map.mpr ⟨q, hq, rfl⟩)
  · rintro ⟨before, after, rfl, later⟩
    refine ⟨before.map fun (name, value) => (name, textOf value),
      after.map fun (name, value) => (name, textOf value), by simp, fun q hq => ?_⟩
    obtain ⟨header, hheader, rfl⟩ := List.mem_map.mp hq
    exact later header hheader

/-- **What is carried on is told by what is listed.** The headers are listed, read as text and put
in order, and none of the three steps can fail. -/
theorem Request.carriedLaws (r : Request) (whitelist : List String) :
    Headers.CarriedLaws whitelist r.headers (r.carried whitelist) := by
  have last : ∀ name value, (name, value) ∈ r.carried whitelist ↔
      Headers.IsLast (name, Text.octets value) (Headers.listed whitelist r.headers) := by
    intro name value
    rw [r.carried_eq, Headers.mem_ofList_iff]
    exact Headers.isLast_map_textOf_iff fun _ => Headers.visible_of_mem_listed
  have inOrder : (r.carried whitelist).InOrder := by
    rw [r.carried_eq]
    exact Headers.inOrder_ofList _
  refine ⟨inOrder, fun header hheader => ?_, last⟩
  obtain ⟨value, isLast⟩ := Headers.exists_isLast hheader
  obtain ⟨text, rfl⟩ := Text.exists_octets_eq (Headers.visible_of_mem_listed isLast.mem)
  refine ⟨text, (last _ _).mpr isLast, fun other hother => ?_⟩
  -- Two headers of one name would not be in order.
  have names : ((r.carried whitelist).map Prod.fst).Nodup :=
    List.pairwise_map.mpr (inOrder.imp fun before => before.ne)
  exact (Prod.mk.inj (List.inj_on_of_nodup_map names hother ((last _ _).mpr isLast) rfl)).2

end SchemaRegistry
