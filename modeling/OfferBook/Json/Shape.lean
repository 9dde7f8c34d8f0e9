import OfferBook.Json.Reader

/-! # Reading records from text

Of a record only the known fields are read. The values of other fields are passed over: they are
written like values, but what they say does not matter. Their numbers may be beyond all bounds,
their texts may hold half a pair of surrogates, and they may be nested to any depth.

* `Json.skipValue?` — pass over a value.
* `Shape` — what a text is read for: a value as a whole, or the known fields of a record.
* `Shape.read?` — the value of a whole text, without the fields that are not known.
-/

namespace OfferBook

namespace Json

/-! ## Passing over values -/

/-- Pass over the characters up to the closing quote. -/
def skipQuoted? : List Char → Option (List Char)
  | [] => none
  | '"' :: r => some r
  | '\\' :: 'u' :: a :: b :: c :: d :: r =>
    if (readHex? [a, b, c, d]).isSome then skipQuoted? r else none
  | '\\' :: c :: r => if (escaped? c).isSome then skipQuoted? r else none
  | c :: r => if c.toNat < 0x20 ∨ c = '\\' then none else skipQuoted? r

/-- Pass over digits, of which at least one must be there. -/
def skipDigits? (cs : List Char) : Option (List Char) :=
  let (ds, r) := spanDigits cs
  if ds = [] then none else some r

/-- Pass over the digits before the point: a zero, or digits that begin with another one. -/
def skipWhole? (cs : List Char) : Option (List Char) :=
  let (ds, r) := spanDigits cs
  if ds = [] ∨ (ds.head? = some '0' ∧ ds ≠ ['0']) then none else some r

/-- Pass over a point with its digits, where there is one. -/
def skipFraction? : List Char → Option (List Char)
  | '.' :: r => skipDigits? r
  | cs => some cs

/-- Pass over an exponent, where there is one. -/
def skipExponent? : List Char → Option (List Char)
  | 'e' :: r | 'E' :: r => skipDigits? (splitSign r).2
  | cs => some cs

/-- Pass over a number. -/
def skipNumber? : List Char → Option (List Char)
  | '-' :: r => ((skipWhole? r).bind skipFraction?).bind skipExponent?
  | cs => ((skipWhole? cs).bind skipFraction?).bind skipExponent?

/-- Pass over a value that is neither a list nor an object. -/
def skipPlain? : List Char → Option (List Char)
  | 'n' :: 'u' :: 'l' :: 'l' :: r => some r
  | 't' :: 'r' :: 'u' :: 'e' :: r => some r
  | 'f' :: 'a' :: 'l' :: 's' :: 'e' :: r => some r
  | '"' :: r => skipQuoted? r
  | cs => skipNumber? cs

/-- The characters after a colon, which may follow white space. -/
def skipColon? (cs : List Char) : Option (List Char) :=
  match skipSpace cs with
  | ':' :: r => some r
  | _ => none

/-- Pass over a key with its colon. -/
def skipKey? (cs : List Char) : Option (List Char) :=
  match skipSpace cs with
  | '"' :: r => (skipQuoted? r).bind skipColon?
  | _ => none

/-- What a value can be inside of. -/
inductive Bracket
  | list
  | object

mutual

/-- Pass over a value, and over what follows it up to the end of all that is open around it, the
    innermost first. -/
def skipWithin? (fuel : Nat) (around : List Bracket) (cs : List Char) : Option (List Char) :=
  match fuel with
  | 0 => none
  | fuel + 1 =>
    match skipSpace cs with
    | '[' :: r =>
      match skipSpace r with
      | ']' :: r => skipAfter? fuel around r
      | r => skipWithin? fuel (.list :: around) r
    | '{' :: r =>
      match skipSpace r with
      | '}' :: r => skipAfter? fuel around r
      | r =>
        match skipKey? r with
        | some r => skipWithin? fuel (.object :: around) r
        | none => none
    | r =>
      match skipPlain? r with
      | some r => skipAfter? fuel around r
      | none => none

/-- Pass over what follows a value. -/
def skipAfter? (fuel : Nat) (around : List Bracket) (cs : List Char) : Option (List Char) :=
  match fuel with
  | 0 => none
  | fuel + 1 =>
    match around, skipSpace cs with
    | [], _ => some cs
    | .list :: around, ']' :: r => skipAfter? fuel around r
    | .object :: around, '}' :: r => skipAfter? fuel around r
    | .list :: _, ',' :: r => skipWithin? fuel around r
    | .object :: _, ',' :: r =>
      match skipKey? r with
      | some r => skipWithin? fuel around r
      | none => none
    | _, _ => none

end

/-- Pass over one value after white space. -/
def skipValue? (cs : List Char) : Option (List Char) := skipWithin? (cs.length + 2) [] cs

/-- A key with its colon. -/
def readKey? (cs : List Char) : Option (String × List Char) :=
  match skipSpace cs with
  | '"' :: r => do
    let (key, r) ← readQuoted? (r.length + 1) r
    some (String.ofList key, ← skipColon? r)
  | _ => none

end Json

/-! ## Shapes -/

/-- What a text is read for. -/
inductive Shape
  /-- A value, all of which is read. -/
  | whole
  /-- A record, of which the known fields are read. Each of them has a shape of its own. -/
  | record (fields : List (String × Shape))

namespace Shape

/-- A record whose fields are read as a whole. -/
def ofNames (names : List String) : Shape := .record (names.map (·, .whole))

/-- A record whose fields are read as a whole but for one, which has a shape of its own. -/
def ofNamesWith (name : String) (inner : Shape) (names : List String) : Shape :=
  .record (names.map fun n => (n, if n = name then inner else .whole))

mutual

/-- One value after white space, its lists and objects nested at most `depth` deep. A record may be
    given as a list of its values. -/
def readValue? (fuel depth : Nat) (shape : Shape) (cs : List Char) :
    Option (Json × List Char) :=
  match fuel with
  | 0 => none
  | fuel + 1 =>
    match shape, depth, Json.skipSpace cs with
    | .record fields, depth + 1, '{' :: r =>
      match Json.skipSpace r with
      | '}' :: r => some (.object [], r)
      | r => (readFields? fuel depth fields r).map fun (es, r) => (.object es, r)
    | .record fields, depth + 1, '[' :: r =>
      match Json.skipSpace r with
      | ']' :: r => some (.array [], r)
      | r => (readItems? fuel depth (fields.map Prod.snd) r).map fun (vs, r) => (.array vs, r)
    | _, depth, r => Json.readValue? (r.length + 1) depth r

/-- The known ones among the fields of a record, up to the closing brace. -/
def readFields? (fuel depth : Nat) (fields : List (String × Shape)) (cs : List Char) :
    Option (List (String × Json) × List Char) :=
  match fuel with
  | 0 => none
  | fuel + 1 => do
    let (key, r) ← Json.readKey? cs
    let (found, r) ← match Entries.lookup key fields with
      | some shape => (readValue? fuel depth shape r).map fun (v, r) => ([(key, v)], r)
      | none => (Json.skipValue? r).map ([], ·)
    match Json.skipSpace r with
    | '}' :: r => some (found, r)
    | ',' :: r =>
      let (es, r) ← readFields? fuel depth fields r
      some (found ++ es, r)
    | _ => none

/-- Values given in the order of their shapes, up to the closing bracket. -/
def readItems? (fuel depth : Nat) (shapes : List Shape) (cs : List Char) :
    Option (List Json × List Char) :=
  match fuel with
  | 0 => none
  | fuel + 1 => do
    let (v, r) ← readValue? fuel depth (shapes.headD .whole) cs
    match Json.skipSpace r with
    | ']' :: r => some ([v], r)
    | ',' :: r =>
      let (vs, r) ← readItems? fuel depth shapes.tail r
      some (v :: vs, r)
    | _ => none

end

/-- The value of a whole text, of which the known fields are read. -/
def read? (shape : Shape) (text : String) : Option Json :=
  match readValue? (text.length + 1) Json.maxDepth shape text.toList with
  | some (v, r) => if (Json.skipSpace r).isEmpty then some v else none
  | none => none

end Shape

end OfferBook
