import SchemaRegistry.Text.Decomposition
/-!
# The composed form of a text

Texts that differ only in how their letters carry marks look the same, so one of them is chosen to
stand for all: every character is taken apart, the marks behind each letter are put into the order
of their classes, and then letters and marks are put together again as far as they go.

A mark joins the letter in front of it unless something stands between that attaches at the same
place, which is so if the last mark left there is of its class or a greater one.
-/

set_option autoImplicit false

namespace SchemaRegistry.Text

/-- A character in front of characters in order, moved behind the marks that come before it. -/
def insertMark (c : Char) : List Char → List Char
  | [] => [c]
  | d :: rest =>
    if markClass d ≠ 0 ∧ markClass d < markClass c then d :: insertMark c rest else c :: d :: rest

/-- The characters with marks ordered by class; those of one class stay as they stand. -/
def orderMarks : List Char → List Char
  | [] => []
  | c :: rest => if markClass c = 0 then c :: orderMarks rest else insertMark c (orderMarks rest)

/-- The characters behind a letter put together with it; `left` are those that stay between, the
last of them first. -/
def joinFrom (letter : Char) (left : List Char) : List Char → List Char
  | [] => letter :: left.reverse
  | c :: rest =>
    let reaches := match left with
      | [] => true
      | d :: _ => markClass d < markClass c
    match if reaches then join? letter c else none with
    | some letter => joinFrom letter left rest
    | none =>
      if markClass c = 0 then letter :: left.reverse ++ joinFrom c [] rest
      else joinFrom letter (c :: left) rest

/-- The composed form. Marks that stand in front of all letters join none. -/
def composed (cs : List Char) : List Char :=
  let ordered := orderMarks (cs.flatMap decompose)
  let isMark (c : Char) : Bool := markClass c ≠ 0
  ordered.takeWhile isMark ++
    match ordered.dropWhile isMark with
    | [] => []
    | letter :: rest => joinFrom letter [] rest

end SchemaRegistry.Text
