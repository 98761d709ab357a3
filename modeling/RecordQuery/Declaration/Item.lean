import RecordQuery.Declaration.Token

/-!
# Declarations of types

`Item.ofTrees?` takes the declaration of a type apart: its attributes, its name, whether it has
parameters and, where it is a struct, its named fields.

The parts of a declaration are told apart by a few marks.  Attributes begin with a number sign.
Parameters stand between angle brackets behind the name.  The fields are named if they stand in
braces, and these are at the end of the declaration.  A comma separates two fields unless it stands
between angle brackets, of which the tip of an arrow is none.
-/

namespace RecordQuery.Declaration

open Token (Tree)

/-- A named field of a struct. -/
structure Member where
  /-- The contents of the attributes. -/
  attributes : List (List Tree)
  name : String
  type : List Tree

/-- The declaration of a type. -/
structure Item where
  /-- The contents of the attributes. -/
  attributes : List (List Tree)
  name : String
  /-- Whether there are parameters. -/
  parametric : Bool
  /-- The fields, if this is a struct with named fields. -/
  members : Option (List Member)

/-- The contents of the attributes that tokens begin with, and what follows them. -/
def takeAttributes : List Tree → List (List Tree) × List Tree
  | .leaf (.mark '#' _) :: .group .bracket items :: rest =>
    let (more, rest) := takeAttributes rest
    (items :: more, rest)
  | rest => ([], rest)

/-- The tokens without the visibility that they may begin with. -/
def dropVisibility : List Tree → List Tree
  | .leaf (.name "pub") :: .group .paren _ :: rest => rest
  | .leaf (.name "pub") :: rest => rest
  | .leaf (.name "crate") :: rest => rest
  | rest => rest

/-- Splits tokens at the commas outside of angle brackets, `depth` of which are open.  `minus` tells
whether a minus sign precedes that a mark follows at once.  The first part stands apart. -/
def splitAtCommas (depth : Nat) (minus : Bool) : List Tree → List Tree × List (List Tree)
  | [] => ([], [])
  | t :: rest =>
    match t with
    | .leaf (.mark ',' _) =>
      if depth = 0 then
        let (first, more) := splitAtCommas 0 false rest
        ([], first :: more)
      else within depth false t rest
    | .leaf (.mark '<' _) => within (depth + 1) false t rest
    | .leaf (.mark '>' _) => within (if minus then depth else depth - 1) false t rest
    | .leaf (.mark '-' joint) => within depth joint t rest
    | _ => within depth false t rest
where
  /-- Goes on behind a token that belongs to the first part. -/
  within (depth : Nat) (minus : Bool) (t : Tree) (rest : List Tree) :
      List Tree × List (List Tree) :=
    let (first, more) := splitAtCommas depth minus rest
    (t :: first, more)

/-- A field from its tokens. -/
def Member.ofTrees? (items : List Tree) : Option Member :=
  let (attributes, rest) := takeAttributes items
  match dropVisibility rest with
  | .leaf (.name name) :: .leaf (.mark ':' _) :: type => some ⟨attributes, name, type⟩
  | _ => none

/-- The fields between braces; the last one may have a comma behind it. -/
def Member.listOfTrees? (items : List Tree) : Option (List Member) :=
  let (first, more) := splitAtCommas 0 false items
  ((first :: more).filter (!·.isEmpty)).mapM Member.ofTrees?

/-- Whether what stands behind the name of a type begins with parameters. -/
def hasParameters : List Tree → Bool
  | .leaf (.mark '<' _) :: .leaf (.mark '>' _) :: _ => false
  | .leaf (.mark '<' _) :: _ => true
  | _ => false

/-- The declaration of a type from its tokens. -/
def Item.ofTrees? (items : List Tree) : Option Item := do
  let (attributes, rest) := takeAttributes items
  match dropVisibility rest with
  | .leaf (.name kind) :: .leaf (.name name) :: body =>
    let members ←
      match kind, body.getLast? with
      | "struct", some (.group .brace fields) => some <$> Member.listOfTrees? fields
      | _, _ => some none
    return ⟨attributes, name, hasParameters body, members⟩
  | _ => none

/-- The declaration of a type from its text. -/
def Item.ofText? (text : String) : Option Item := Token.trees? text >>= Item.ofTrees?

end RecordQuery.Declaration
