/-! Quoted text is opaque: a bracket inside it neither opens nor closes anything. -/

namespace FieldMenu.Scan

inductive Quoting where
  | outside
  | inside
  | escaped
deriving DecidableEq, Repr

namespace Quoting

def step : Quoting → Char → Quoting
  | .outside, c => if c = '"' then .inside else .outside
  | .inside, c => if c = '\\' then .escaped else if c = '"' then .outside else .inside
  | .escaped, _ => .inside

end Quoting

def closerOf? : Char → Option Char
  | '[' => some ']'
  | '{' => some '}'
  | _ => none

/-- Reads up to the closer that balances an opener already read, and returns what lies before it
and what lies behind it.  `depth` counts the openers of the same kind still open inside, and `read`
holds what has been read, last character first. -/
def enclosed? (opener closer : Char) :
    (depth : Nat) → Quoting → (read : List Char) → List Char → Option (List Char × List Char)
  | _, _, _, [] => none
  | depth, .outside, read, c :: rest =>
      if c = opener then enclosed? opener closer (depth + 1) .outside (c :: read) rest
      else if c = closer then
        match depth with
        | 0 => some (read.reverse, rest)
        | depth + 1 => enclosed? opener closer depth .outside (c :: read) rest
      else enclosed? opener closer depth (Quoting.step .outside c) (c :: read) rest
  | depth, .inside, read, c :: rest =>
      enclosed? opener closer depth (Quoting.step .inside c) (c :: read) rest
  | depth, .escaped, read, c :: rest =>
      enclosed? opener closer depth (Quoting.step .escaped c) (c :: read) rest

theorem enclosed?_eq_some {opener closer : Char} {depth : Nat} {quoting : Quoting}
    {read text body rest : List Char}
    (h : enclosed? opener closer depth quoting read text = some (body, rest)) :
    read.reverse ++ text = body ++ closer :: rest := by
  induction text generalizing depth quoting read with
  | nil => cases quoting <;> simp [enclosed?] at h
  | cons c tail ih =>
      have step {depth : Nat} {quoting : Quoting}
          (later : enclosed? opener closer depth quoting (c :: read) tail = some (body, rest)) :
          read.reverse ++ c :: tail = body ++ closer :: rest := by
        simpa using ih later
      cases quoting with
      | outside =>
          simp only [enclosed?] at h
          split at h
          · exact step h
          · split at h
            · rename_i closes
              cases depth with
              | zero =>
                  cases h
                  rw [closes]
              | succ depth => exact step h
            · exact step h
      | inside => exact step (by simpa only [enclosed?] using h)
      | escaped => exact step (by simpa only [enclosed?] using h)

def byteLength (text : List Char) : Nat :=
  text.foldl (fun total c => total + c.utf8Size) 0

/-- The text from a byte offset on; none past the end or inside a character. -/
def suffixAt? : Nat → List Char → Option (List Char)
  | 0, text => some text
  | _ + 1, [] => none
  | offset + 1, c :: rest =>
      if offset + 1 < c.utf8Size then none else suffixAt? (offset + 1 - c.utf8Size) rest

def matchingBracket? (text : List Char) (offset : Nat) : Option Nat :=
  match suffixAt? offset text with
  | some (opener :: rest) =>
      match closerOf? opener with
      | some closer =>
          (enclosed? opener closer 0 .outside [] rest).map fun parts =>
            offset + 1 + byteLength parts.1
      | none => none
  | _ => none

/-- The state of a sweep for objects: the object being read stands in `current`, last character
first, and the complete ones in `found`, last object first. -/
structure ObjectSweep where
  quoting : Quoting := .outside
  depth : Nat := 0
  current : List Char := []
  found : List (List Char) := []

namespace ObjectSweep

def keep (sweep : ObjectSweep) (c : Char) : ObjectSweep :=
  { sweep with
    quoting := sweep.quoting.step c
    current := if sweep.depth = 0 then [] else c :: sweep.current }

/-- Reads a closer; one that closes nothing is passed over. -/
def close (sweep : ObjectSweep) : ObjectSweep :=
  match sweep.depth with
  | 0 => sweep
  | 1 =>
      { sweep with
        depth := 0
        current := []
        found := ('}' :: sweep.current).reverse :: sweep.found }
  | depth + 2 => { sweep with depth := depth + 1, current := '}' :: sweep.current }

def step (sweep : ObjectSweep) (c : Char) : ObjectSweep :=
  if sweep.quoting = .outside ∧ c = '{' then
    { sweep with depth := sweep.depth + 1, current := '{' :: sweep.current }
  else if sweep.quoting = .outside ∧ c = '}' then sweep.close
  else sweep.keep c

end ObjectSweep

/-- The outermost objects of a text, in order.  An object that is never closed is left out. -/
def objects (text : List Char) : List (List Char) :=
  (text.foldl ObjectSweep.step {}).found.reverse

end FieldMenu.Scan
