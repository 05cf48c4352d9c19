/-!
# Syntax trees

As much of the structure of a source text as declarations are read from: classes and functions with
their headers and bodies, imports, and of an expression the chains of names that it may be. Every
other expression or statement is there, with nothing known of it but, for an expression, its line.
-/

namespace ProviderRegistry.Source

/-- An expression, with the line that it starts in. -/
inductive Expr where
  | name (line : Nat) (id : String)
  | member (line : Nat) (value : Expr) (attr : String)
  | subscript (line : Nat) (value : Expr)
  | call (line : Nat) (function : Expr) (arguments : List Expr)
      (keywords : List (Option String × Expr))
  /-- A list or a tuple. -/
  | sequence (line : Nat) (items : List Expr)
  | starred (line : Nat) (value : Expr)
  | comparison (line : Nat) (left : Expr) (membership : Bool)
  | other (line : Nat)

namespace Expr

/-- The line that an expression starts in. -/
def line : Expr → Nat
  | name line _ | member line _ _ | subscript line _ | call line _ _ _ | sequence line _
  | starred line _ | comparison line _ _ | other line => line

/-- The names of a chain of attributes, from the first on. -/
def chain? : Expr → Option (List String)
  | name _ id => some [id]
  | member _ value attr => value.chain?.map (· ++ [attr])
  | _ => none

/-- The names of a chain joined by dots; subscripts after a chain do not count. Nothing else has a
dotted name. -/
def dotted? : Expr → Option String
  | subscript _ value => value.dotted?
  | e => e.chain?.map (".".intercalate ·)

end Expr

/-- The parameters of a function: for each that has a name whether it has a default, and whether
more arguments are taken. -/
structure Parameters where
  positionalOnly : List Bool := []
  positional : List Bool := []
  variadic : Bool := false
  keywordOnly : List Bool := []
  variadicKeywords : Bool := false

namespace Parameters

/-- The parameters of two parts of a header. -/
def append (p q : Parameters) : Parameters where
  positionalOnly := p.positionalOnly ++ q.positionalOnly
  positional := p.positional ++ q.positional
  variadic := p.variadic || q.variadic
  keywordOnly := p.keywordOnly ++ q.keywordOnly
  variadicKeywords := p.variadicKeywords || q.variadicKeywords

instance : Append Parameters := ⟨append⟩

end Parameters

/-- A name that is imported, and the name that it gets. -/
structure ImportedName where
  name : String
  asName : Option String

/-- A statement. -/
inductive Stmt where
  | classDef (line : Nat) (name : String) (bases : List Expr)
      (keywords : List (Option String × Expr)) (decorators : List Expr) (body : List Stmt)
  | functionDef (line : Nat) (name : String) (isAsync : Bool) (parameters : Parameters)
      (decorators : List Expr) (body : List Stmt)
  | importModules (names : List ImportedName)
  /-- Imports from a module, which may be given by a number of steps up and a name. -/
  | importFrom (level : Nat) (module : Option String) (names : List ImportedName)
  | other

end ProviderRegistry.Source
