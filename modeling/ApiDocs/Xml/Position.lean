namespace ApiDocs.Xml

/-! Lines and columns. -/

/-- Where a character stands: lines count from one, columns from zero. -/
structure Position where
  line : Nat
  column : Nat
  deriving DecidableEq, Repr, Inhabited

namespace Position

def first : Position := ⟨1, 0⟩

/-- The position after a character.  A carriage return ends a line unless a
line feed follows, which then ends it. -/
def after (position : Position) (c : Char) (followedByFeed : Bool) : Position :=
  if c = '\n' || (c = '\r' && !followedByFeed) then
    ⟨position.line + 1, 0⟩
  else
    ⟨position.line, position.column + 1⟩

end Position

abbrev Located := Char × Position

namespace Located

def placeFrom (done : List Located) (position : Position) :
    List Char → List Located × Position
  | [] => (done.reverse, position)
  | c :: rest =>
      placeFrom ((c, position) :: done)
        (position.after c (rest.head? == some '\n')) rest

def place (position : Position) (cs : List Char) : List Located × Position :=
  placeFrom [] position cs

def pin (position : Position) (cs : List Char) : List Located :=
  cs.map (·, position)

def chars (located : List Located) : List Char :=
  located.map Prod.fst

def text (located : List Located) : String :=
  String.ofList (chars located)

@[simp] theorem chars_pin (position : Position) (cs : List Char) :
    chars (pin position cs) = cs := by
  simp [chars, pin, Function.comp_def]

theorem chars_placeFrom (done : List Located) (position : Position) (cs : List Char) :
    chars (placeFrom done position cs).1 = chars done.reverse ++ cs := by
  induction cs generalizing done position with
  | nil => simp [placeFrom]
  | cons c rest ih =>
      rw [placeFrom, ih]
      simp [chars]

@[simp] theorem chars_place (position : Position) (cs : List Char) :
    chars (place position cs).1 = cs := by
  rw [place, chars_placeFrom]
  rfl

end Located

end ApiDocs.Xml
