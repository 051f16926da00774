import Fulfilment.Json.Tree
import Fulfilment.Proofs.Json.Numeral

/-!
# Reading written values

A value is faithful if its written form is scanned as its tokens and these are read as the value.
Texts and whole numbers of a readable length are faithful, and an object is if the values of its
members are and stand in few enough containers.
-/

namespace Fulfilment
namespace Json

/-- A value that is read back, with at most so many levels of containers in it. -/
structure Faithful
    (depth : Nat)
    (value : Json) : Prop where
  /-- The written form is scanned as the tokens, if a bracket or separator follows. -/
  scanned :
    ∀ {character token} (rest : List Char),
      Token.mark? character = some token →
      Token.scanFrom? .between (value.write ++ character :: rest) =
        (Token.scanFrom? .between (character :: rest)).map (value.tokens ++ ·)
  /-- The tokens are read as the value. -/
  built :
    ∀ (frames : List Frame) (rest : List Token),
      frames.length + depth ≤ Place.deepest →
      (value.tokens ++ rest).foldlM Place.step? ⟨.value, frames⟩ =
        rest.foldlM Place.step? ⟨.after value, frames⟩

/-- Members whose values are read back. -/
def FaithfulMembers
    (depth : Nat)
    (members : List (String × Json)) : Prop :=
  ∀ member ∈ members, Faithful depth member.2

/-- A token is read before those that follow it. -/
theorem foldlM_step?_cons
    {place next : Place}
    {token : Token}
    (stepped : place.step? token = some next)
    (rest : List Token) :
    (token :: rest).foldlM Place.step? place = rest.foldlM Place.step? next := by
  simp [List.foldlM_cons, stepped]

/-- A scalar is read as itself. -/
theorem foldlM_step?_scalar
    (content : Scalar)
    {frames : List Frame}
    (fits : frames.length ≤ Place.deepest)
    (rest : List Token) :
    (Token.scalar content :: rest).foldlM Place.step? ⟨.value, frames⟩ =
      rest.foldlM Place.step? ⟨.after (.scalar content), frames⟩ := by
  apply foldlM_step?_cons
  simp [Place.step?, Place.beginValue?, Nat.not_lt.mpr fits]

/-- A text is read back. -/
@[simp]
theorem Faithful.string
    (depth : Nat)
    (text : String) :
    Faithful depth (.string text) where
  scanned := by
    intro character token rest _
    simpa [Json.string, write, tokens, Token.write] using Token.scanFrom?_string text _
  built := by
    intro frames rest fits
    exact foldlM_step?_scalar (.string text) (by omega) rest

/-- A whole number of a readable length is read back. -/
theorem Faithful.integer
    {number : Int}
    (depth : Nat)
    (short : (Number.decimalDigits number.natAbs).length ≤ Number.mostDigits) :
    Faithful depth (.integer number) where
  scanned := by
    intro character token rest marked
    simpa [Json.integer, write, tokens, Token.write]
      using Token.scanFrom?_integer short marked rest
  built := by
    intro frames rest fits
    exact foldlM_step?_scalar (.integer number) (by omega) rest

/-! ## Objects -/

/-- The tokens of a member that others follow. -/
theorem memberTokens_cons_cons
    (name : String)
    (value : Json)
    (next : String × Json)
    (rest : List (String × Json)) :
    memberTokens ((name, value) :: next :: rest) =
      .scalar (.string name) :: .colon ::
        (value.tokens ++ .comma :: memberTokens (next :: rest)) := by
  rw [memberTokens]
  simp

/-- The written name of a member and the colon behind it are scanned by themselves. -/
theorem scanFrom?_name
    (name : String)
    (rest : List Char) :
    Token.scanFrom? .between
        (Token.writeScalar (.string name) ++ ':' :: rest) =
      (Token.scanFrom? .between rest).map
        (fun following => .scalar (.string name) :: .colon :: following) := by
  rw [Token.scanFrom?_string, Token.scanFrom?_mark Token.mark?_colon]
  simp [Function.comp_def]

/-- The written members of an object and its end are scanned as their tokens. -/
theorem scanFrom?_memberTokens
    {depth : Nat}
    (rest : List Char) :
    ∀ members : List (String × Json),
      FaithfulMembers depth members →
      Token.scanFrom? .between ((memberTokens members).flatMap Token.write ++ rest) =
        (Token.scanFrom? .between rest).map (memberTokens members ++ ·)
  | [], _ => by
      simpa [memberTokens, Token.write] using Token.scanFrom?_mark Token.mark?_closeObject rest
  | [(name, value)], faithful => by
      have last := (faithful (name, value) (by simp)).scanned rest Token.mark?_closeObject
      simp only [write] at last
      simp only [memberTokens, List.flatMap_cons, List.flatMap_append, List.flatMap_nil,
        Token.write, List.append_assoc, List.cons_append, List.nil_append]
      rw [scanFrom?_name, last, Token.scanFrom?_mark Token.mark?_closeObject]
      simp [Function.comp_def]
  | (name, value) :: next :: others, faithful => by
      have following := scanFrom?_memberTokens rest (next :: others)
        fun member isMember => faithful member (by simp [isMember])
      have first := (faithful (name, value) (by simp)).scanned
        ((memberTokens (next :: others)).flatMap Token.write ++ rest) Token.mark?_comma
      simp only [write] at first
      rw [memberTokens_cons_cons]
      simp only [List.flatMap_cons, List.flatMap_append, Token.write, List.append_assoc,
        List.cons_append, List.nil_append]
      rw [scanFrom?_name, first, Token.scanFrom?_mark Token.mark?_comma, following]
      simp [Function.comp_def]

/-- Behind the colon of a member its value is read. -/
theorem Place.step?_colon
    (read : List (String × Json))
    (name : String)
    (frames : List Frame) :
    Place.step? ⟨.colon read name, frames⟩ .colon =
      some ⟨.value, .object read name :: frames⟩ := rfl

/-- Behind the comma after a member the next one is read. -/
theorem Place.step?_comma
    (read : List (String × Json))
    (name : String)
    (value : Json)
    (frames : List Frame) :
    Place.step? ⟨.after value, .object read name :: frames⟩ .comma =
      some ⟨.name ((name, value) :: read), frames⟩ := rfl

/-- The tokens of a member up to the end of its value are read as the member. -/
theorem foldlM_step?_member
    {depth : Nat}
    {name : String}
    {value : Json}
    {expected : Expected}
    {frames : List Frame}
    {read : List (String × Json)}
    (faithful : Faithful depth value)
    (fits : frames.length + 1 + depth ≤ Place.deepest)
    (named : Place.step? ⟨expected, frames⟩ (.scalar (.string name)) =
      some ⟨.colon read name, frames⟩)
    (rest : List Token) :
    (Token.scalar (.string name) :: .colon :: (value.tokens ++ rest)).foldlM Place.step?
        ⟨expected, frames⟩ =
      rest.foldlM Place.step? ⟨.after value, .object read name :: frames⟩ := by
  rw [foldlM_step?_cons named,
    foldlM_step?_cons (Place.step?_colon read name frames)]
  exact faithful.built (.object read name :: frames) rest (by simpa using fits)

/-- The tokens of the members of an object and its end are read as the object.  Names may be
expected at the beginning of the object or behind a comma. -/
theorem foldlM_step?_memberTokens
    {depth : Nat}
    {frames : List Frame}
    (fits : frames.length + 1 + depth ≤ Place.deepest)
    (rest : List Token)
    (others : List (String × Json)) :
    ∀ (name : String) (value : Json) (expected : Expected) (read : List (String × Json)),
      FaithfulMembers depth ((name, value) :: others) →
      (∀ name, Place.step? ⟨expected, frames⟩ (.scalar (.string name)) =
        some ⟨.colon read name, frames⟩) →
      (memberTokens ((name, value) :: others) ++ rest).foldlM Place.step? ⟨expected, frames⟩ =
        rest.foldlM Place.step?
          ⟨.after (.object (read.reverse ++ (name, value) :: others)), frames⟩ := by
  induction others with
  | nil =>
      intro name value expected read faithful named
      have first := foldlM_step?_member (faithful (name, value) (by simp)) fits (named name)
        (.closeObject :: rest)
      simp only [memberTokens, List.cons_append, List.append_assoc, List.nil_append]
      rw [first]
      apply foldlM_step?_cons
      simp [Place.step?, Place.afterValue?]
  | cons next others ih =>
      intro name value expected read faithful named
      obtain ⟨nextName, nextValue⟩ := next
      have first := foldlM_step?_member (faithful (name, value) (by simp)) fits (named name)
        (.comma :: (memberTokens ((nextName, nextValue) :: others) ++ rest))
      have following := ih nextName nextValue (.name ((name, value) :: read))
        ((name, value) :: read) (fun member isMember => faithful member (by simp [isMember]))
        fun _ => rfl
      rw [memberTokens_cons_cons]
      simp only [List.cons_append, List.append_assoc]
      rw [first, foldlM_step?_cons (Place.step?_comma read name value frames), following]
      simp

/-- An object is read back if the values of its members are. -/
theorem Faithful.object
    {depth : Nat}
    {members : List (String × Json)}
    (faithful : FaithfulMembers depth members) :
    Faithful (depth + 1) (.object members) where
  scanned := by
    intro character token rest _
    simp only [write, tokens, List.flatMap_cons, Token.write, List.cons_append, List.nil_append]
    rw [Token.scanFrom?_mark Token.mark?_openObject,
      scanFrom?_memberTokens (character :: rest) members faithful]
    simp [Function.comp_def]
  built := by
    intro frames rest fits
    have opened :
        Place.step? ⟨.value, frames⟩ .openObject = some ⟨.firstName [], frames⟩ := by
      have shallow : ¬Place.deepest < frames.length := by omega
      simp [Place.step?, Place.beginValue?, shallow]
    rw [tokens, List.cons_append, foldlM_step?_cons opened]
    cases members with
    | nil => exact foldlM_step?_cons rfl rest
    | cons first others =>
        obtain ⟨name, value⟩ := first
        exact foldlM_step?_memberTokens (by omega) rest others name value (.firstName []) []
          faithful fun _ => rfl

/-- The text of an object is read as the object if the values of its members are read back. -/
theorem read?_write_object
    {depth : Nat}
    {members : List (String × Json)}
    (faithful : FaithfulMembers depth members)
    (shallow : depth < Place.deepest) :
    read? (write (.object members)) = some (.object members) := by
  have scanned := scanFrom?_memberTokens [] members faithful
  have built := (Faithful.object faithful).built [] [] (by rw [List.length_nil]; omega)
  have spelled : Token.scan? (write (.object members)) = some (tokens (.object members)) := by
    simp only [Token.scan?, write, tokens, List.flatMap_cons, Token.write, List.cons_append,
      List.nil_append]
    rw [Token.scanFrom?_mark Token.mark?_openObject]
    rw [List.append_nil] at scanned
    rw [scanned]
    simp [Token.scanFrom?, Token.finish?]
  rw [List.append_nil] at built
  simp [read?, spelled, ofTokens?, built, Place.value?]

end Json
end Fulfilment
