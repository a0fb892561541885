import OpGraph.Failure

/-!
# Writing numbers

Whatever is written with integers in it can only be written if each of them is short enough.
`writeInteger` is the one writer that fails; the others fail where it does, which
`Shape.write_ranked` shows for the dimensions of a shape.
-/
namespace OpGraph

/-- A text whose numbers must all be short. -/
def writeWhen (short : Bool) (text : String) : Except Failure String :=
  if short then .ok text else .error .numberTooLong

@[simp]
theorem writeWhen_eq_ok_iff {short : Bool} {text result : String} :
    writeWhen short text = .ok result ↔ short = true ∧ text = result := by
  cases short <;> simp [writeWhen]

theorem writeWhen_of_short {short : Bool} (text : String) (h : short = true) :
    writeWhen short text = .ok text := by
  simp [writeWhen, h]

theorem writeWhen_of_long {short : Bool} (text : String) (h : short = false) :
    writeWhen short text = .error .numberTooLong := by
  simp [writeWhen, h]

def writeInteger (n : Int) : Except Failure String :=
  writeWhen (Text.isShort n) (toString n)

/-- Texts are written one by one, up to the first with a number that is too long. -/
theorem mapM_writeWhen {α : Type} (short : α → Bool) (text : α → String) (items : List α) :
    items.mapM (fun item => writeWhen (short item) (text item)) =
      if items.all short then .ok (items.map text) else .error .numberTooLong := by
  induction items with
  | nil => rfl
  | cons item items ih =>
    rw [List.mapM_cons, ih]
    cases here : short item <;> cases later : items.all short <;>
      simp [writeWhen, here, later] <;> rfl

def Dimension.write (d : Dimension) : Except Failure String :=
  writeWhen d.isShort d.text

def Shape.write (shape : Shape) : Except Failure String :=
  writeWhen shape.isShort shape.text

def TensorType.write (type : TensorType) : Except Failure String :=
  writeWhen type.isShort type.text

def Dimension.writeQuoted (d : Dimension) : Except Failure String :=
  writeWhen d.isShort d.quoted

def Shape.writeQuoted (shape : Shape) : Except Failure String :=
  writeWhen shape.isShort shape.quoted

def TensorType.writeQuoted (type : TensorType) : Except Failure String :=
  writeWhen type.isShort type.quoted

def Value.write (value : Value) : Except Failure String :=
  writeWhen value.isShort value.display

def Violation.write (violation : Violation) : Except Failure String :=
  writeWhen violation.isShort violation.message

theorem Dimension.write_static (length : Nat) : (static length).write = writeInteger length :=
  rfl

theorem Shape.write_ranked (dims : List Dimension) :
    (ranked dims).write = (do
      return "\x7b" ++ ",".intercalate (← dims.mapM Dimension.write) ++ "\x7d") := by
  unfold Shape.write
  have items := mapM_writeWhen Dimension.isShort Dimension.text dims
  change dims.mapM Dimension.write = _ at items
  rw [items]
  cases short : dims.all Dimension.isShort with
  | false => exact writeWhen_of_long _ short
  | true => exact writeWhen_of_short _ short

end OpGraph
