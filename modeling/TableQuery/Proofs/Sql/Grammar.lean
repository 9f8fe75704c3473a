import TableQuery.Proofs.Sql.Condition
import TableQuery.Query.Statement

/-!
# The grammar of conditions

Conditions are read from tokens by recursive descent: a condition is a row of terms joined by
`OR`, a term a row of factors joined by `AND`, and a factor a comparison or a condition in
parentheses. Each function gives what it reads and the tokens that are left.

* `readCondition?`: the condition at the beginning of tokens.
* `Statement.reading?`: a statement's tokens before its condition, the condition, and the tokens
  after it.
-/

namespace TableQuery

/-- The comparison that a sign writes. -/
def SqlSign.comparison? : SqlSign → Option SqlComparison
  | .eq => some .eq
  | .ne => some .ne
  | .lt => some .lt
  | .gt => some .gt
  | .lte => some .lte
  | .gte => some .gte
  | _ => none

/-- The function that a word names. -/
def SqlFunction.ofKeyword? : SqlKeyword → Option SqlFunction
  | .TRUNC => some .trunc
  | .ABS => some .abs
  | _ => none

/-- The function that turns values into a type. -/
def SqlFunction.ofType? : SqlKeyword → Option SqlFunction
  | .BIGINT => some .toBigint
  | .VARCHAR => some .toVarchar
  | _ => none

/-- Placeholders with commas between them, up to a closing parenthesis. -/
def readItems? : List SqlToken → Option (List Param × List SqlToken)
  | .param p :: .sign .comma :: rest => (readItems? rest).map fun (ps, rest) => (p :: ps, rest)
  | .param p :: .sign .rightParen :: rest => some ([p], rest)
  | _ => none

/-- The tokens after one that must come next. -/
def expect? (token : SqlToken) : List SqlToken → Option (List SqlToken)
  | [] => none
  | t :: rest => if t = token then some rest else none

mutual

/-- An expression for a value. -/
def readValue? : Nat → List SqlToken → Option (SqlValue × List SqlToken)
  | 0, _ => none
  | _ + 1, .name n :: rest => some (.column n, rest)
  | _ + 1, .param p :: rest => some (.constant p, rest)
  | _ + 1, .other word :: rest => (Param.ofNumeral? word).map fun p => (.constant p, rest)
  | fuel + 1, .key .CASE :: .key .WHEN :: rest => do
    let (condition, rest) ← readDisjunction? fuel rest
    let rest ← expect? (.key .THEN) rest
    let (yes, rest) ← readValue? fuel rest
    let rest ← expect? (.key .ELSE) rest
    let (no, rest) ← readValue? fuel rest
    let rest ← expect? (.key .END) rest
    some (.choice condition yes no, rest)
  | fuel + 1, .key .CAST :: .sign .leftParen :: rest => do
    let (value, rest) ← readValue? fuel rest
    match rest with
    | .key .AS :: .key type :: .sign .rightParen :: rest =>
      (SqlFunction.ofType? type).map fun f => (.call f value, rest)
    | _ => none
  | fuel + 1, .key word :: .sign .leftParen :: rest => do
    let f ← SqlFunction.ofKeyword? word
    let (value, rest) ← readValue? fuel rest
    let rest ← expect? (.sign .rightParen) rest
    some (.call f value, rest)
  | _ + 1, _ => none

/-- A comparison of values. -/
def readComparison? : Nat → List SqlToken → Option (SqlCondition × List SqlToken)
  | 0, _ => none
  | fuel + 1, tokens => do
    let (left, rest) ← readValue? fuel tokens
    match rest with
    | .key .IS :: .key .NULL :: rest => some (.isNull left, rest)
    | .key .IS :: .key .NOT :: .key .NULL :: rest => some (.isNotNull left, rest)
    | .key .IN :: .sign .leftParen :: rest =>
      (readItems? rest).map fun (items, rest) => (.isIn left items, rest)
    | .key .NOT :: .key .IN :: .sign .leftParen :: rest =>
      (readItems? rest).map fun (items, rest) => (.isNotIn left items, rest)
    | .key .ILIKE :: rest =>
      (readValue? fuel rest).map fun (right, rest) => (.like left right, rest)
    | .sign sign :: rest => do
      let comparison ← sign.comparison?
      let (right, rest) ← readValue? fuel rest
      some (.compare comparison left right, rest)
    | _ => none

/-- A comparison, or a condition in parentheses. -/
def readFactor? : Nat → List SqlToken → Option (SqlCondition × List SqlToken)
  | 0, _ => none
  | fuel + 1, .sign .leftParen :: rest => do
    let (condition, rest) ← readDisjunction? fuel rest
    let rest ← expect? (.sign .rightParen) rest
    some (condition, rest)
  | fuel + 1, tokens => readComparison? fuel tokens

/-- Factors joined by `AND`. -/
def readConjunction? : Nat → List SqlToken → Option (SqlCondition × List SqlToken)
  | 0, _ => none
  | fuel + 1, tokens => do
    let (left, rest) ← readFactor? fuel tokens
    match rest with
    | .key .AND :: rest =>
      (readConjunction? fuel rest).map fun (right, rest) => (.and left right, rest)
    | _ => some (left, rest)

/-- Terms joined by `OR`. -/
def readDisjunction? : Nat → List SqlToken → Option (SqlCondition × List SqlToken)
  | 0, _ => none
  | fuel + 1, tokens => do
    let (left, rest) ← readConjunction? fuel tokens
    match rest with
    | .key .OR :: rest =>
      (readDisjunction? fuel rest).map fun (right, rest) => (.or left right, rest)
    | _ => some (left, rest)

end

/-- The condition at the beginning of tokens, and the tokens that are left. No reading calls
itself more often than this without taking a token. -/
def readCondition? (tokens : List SqlToken) : Option (SqlCondition × List SqlToken) :=
  readDisjunction? (4 * tokens.length + 2) tokens

/-- The token begins the condition of a statement, or what comes after it. -/
def SqlToken.endsHead : SqlToken → Bool
  | .key .WHERE | .key .ORDER => true
  | _ => false

/-- A statement in three parts. -/
structure SqlReading where
  head : List SqlToken
  condition : Option SqlCondition
  tail : List SqlToken

/-- The parts of a statement. Its condition is followed by nothing or by its order. -/
def Statement.reading? (s : Statement) : Option SqlReading := do
  let tokens ← sqlTokens? s.params s.sql.toList
  let head := tokens.takeWhile (!·.endsHead)
  match tokens.dropWhile (!·.endsHead) with
  | .key .WHERE :: rest => do
    let (condition, tail) ← readCondition? rest
    if tail.head?.all (· == .key .ORDER) then some ⟨head, some condition, tail⟩ else none
  | tail => some ⟨head, none, tail⟩

/-- Whether a row is meant by a statement; all are without a condition. -/
def SqlReading.truth (D : SqlDialect) (row : D.Row) (r : SqlReading) : Truth :=
  match r.condition with
  | some c => c.truth D row
  | none => .yes

/-- Whether a row is meant by a statement that can be read. -/
def Statement.truth? (D : SqlDialect) (row : D.Row) (s : Statement) : Option Truth :=
  s.reading?.map (·.truth D row)

end TableQuery
