import GpuScript.Buffer.Contents
import GpuScript.Proofs.Edit
import GpuScript.Section.Drawing
import GpuScript.Section.Probing
import GpuScript.Section.Setting
import GpuScript.Section.Storage

namespace GpuScript

namespace Fault

def isLocated : Fault → Bool
  | located .. => true
  | _ => false

theorem atLine_of_plain {fault : Fault} (plain : fault.isLocated = false) (line : Nat) :
    fault.atLine line = .located line fault := by
  cases fault with
  | located => cases plain
  | _ => rfl

end Fault

/-- A computation that reports faults without a line only. -/
def Plain {Result : Type} (outcome : Except Fault Result) : Prop :=
  ∀ fault, outcome = .error fault → fault.isLocated = false

namespace Plain

variable {Result Next : Type}

theorem ok (result : Result) : Plain (.ok result : Except Fault Result) := by
  intro fault found
  cases found

theorem error {fault : Fault} (plain : fault.isLocated = false) :
    Plain (.error fault : Except Fault Result) := by
  intro other found
  cases found
  exact plain

theorem bind {first : Except Fault Result} {next : Result → Except Fault Next}
    (plain : Plain first) (rest : ∀ result, Plain (next result)) : Plain (first >>= next) := by
  cases first with
  | ok result => exact rest result
  | error fault => exact error (plain fault rfl)

theorem map {first : Except Fault Result} (plain : Plain first) (change : Result → Next) :
    Plain (first.map change) := by
  cases first with
  | ok result => exact ok (change result)
  | error fault => exact error (plain fault rfl)

theorem mapM {Item : Type} {operation : Item → Except Fault Result}
    (plain : ∀ item, Plain (operation item)) (items : List Item) :
    Plain (items.mapM operation) := by
  induction items with
  | nil => exact ok []
  | cons item items ih =>
    rw [List.mapM_cons]
    exact (plain item).bind fun _ => ih.bind fun _ => ok _

theorem foldlM {Item : Type} {operation : Result → Item → Except Fault Result}
    (plain : ∀ result item, Plain (operation result item)) (start : Result) (items : List Item) :
    Plain (items.foldlM operation start) := by
  induction items generalizing start with
  | nil => exact ok start
  | cons item items ih =>
    rw [List.foldlM_cons]
    exact (plain start item).bind fun result => ih result

end Plain

namespace Edit

variable {State Result Next : Type}

/-- An edit that reports faults without a line only. -/
def IsPlain (operation : Edit State Result) : Prop := ∀ state, Plain (operation.apply state).1

namespace IsPlain

theorem pure (result : Result) : IsPlain (Pure.pure result : Edit State Result) :=
  fun _ => .ok result

theorem throw {fault : Fault} (plain : fault.isLocated = false) :
    IsPlain (MonadExcept.throw fault : Edit State Result) := fun _ => .error plain

theorem get : IsPlain (MonadState.get : Edit State State) := fun state => .ok state

theorem change (change : State → State) : IsPlain (modify change : Edit State PUnit) := by
  intro state
  exact Plain.ok PUnit.unit

theorem ite {condition : Prop} [Decidable condition] {left right : Edit State Result}
    (plainLeft : IsPlain left) (plainRight : IsPlain right) :
    IsPlain (if condition then left else right) := by
  split
  · exact plainLeft
  · exact plainRight

theorem ofExcept {outcome : Except Fault Result} (plain : Plain outcome) :
    IsPlain (Edit.ofExcept outcome : Edit State Result) := by
  intro state
  rw [apply_ofExcept]
  exact plain

theorem bind {first : Edit State Result} {next : Result → Edit State Next} (plain : IsPlain first)
    (rest : ∀ result, IsPlain (next result)) : IsPlain (first >>= next) := by
  intro state
  have unlocated := plain state
  rw [apply_bind]
  split <;> rename_i found <;> rw [found] at unlocated
  · exact rest _ _
  · exact .error (unlocated _ rfl)

end IsPlain

end Edit

namespace Token

theorem plain_asDouble (token : Token) : Plain token.asDouble := by
  unfold asDouble
  split
  · exact .ok _
  · split
    · exact .error rfl
    · exact .ok _
  · exact .error rfl

end Token

theorem plain_complain {Result : Type} (rule : String) (token : Token) :
    Plain (complain rule token : Except Fault Result) := .error rfl

namespace Reader

variable {Result Next : Type}

/-- A reader that reports faults without a line only. -/
def IsPlain (reader : Reader Result) : Prop := ∀ words, Plain (reader.run words)

namespace IsPlain

theorem pure (result : Result) : IsPlain (Pure.pure result : Reader Result) :=
  fun words => .ok (result, words)

theorem bind {first : Reader Result} {next : Result → Reader Next} (plain : IsPlain first)
    (rest : ∀ result, IsPlain (next result)) : IsPlain (first >>= next) :=
  fun words => (plain words).bind fun outcome => rest outcome.1 outcome.2

theorem map {first : Reader Result} (plain : IsPlain first) (change : Result → Next) :
    IsPlain (change <$> first) := by
  rw [← bind_pure_comp]
  exact plain.bind fun result => pure (change result)

theorem get : IsPlain (MonadState.get : Reader Words) := fun words => .ok (words, words)

theorem set (words : Words) : IsPlain (MonadStateOf.set words : Reader PUnit) := by
  intro before
  exact Plain.ok (PUnit.unit, words)

theorem refuse (rule : String) : IsPlain (Reader.refuse rule : Reader Result) :=
  fun _ => .error rfl

theorem refuseAt (rule : String) (token : Token) :
    IsPlain (Reader.refuseAt rule token : Reader Result) := fun _ => .error rfl

theorem lift {outcome : Except Fault Result} (plain : Plain outcome) :
    IsPlain (liftM outcome : Reader Result) := by
  intro words
  cases outcome with
  | ok result => exact .ok (result, words)
  | error fault => exact .error (plain fault rfl)

theorem guard {condition : Prop} [Decidable condition] {refusal : Reader PUnit}
    {rest : PUnit → Reader Next} (plain : IsPlain refusal) (after : IsPlain (rest ⟨⟩)) :
    IsPlain (if condition then refusal >>= rest else rest ⟨⟩) := by
  split
  · exact plain.bind fun _ => after
  · exact after

theorem choose {condition : Prop} [Decidable condition] {left right : Reader Result}
    {rest : Result → Reader Next} (plainLeft : IsPlain left) (plainRight : IsPlain right)
    (after : ∀ result, IsPlain (rest result)) :
    IsPlain (if condition then left >>= rest else right >>= rest) := by
  split
  · exact plainLeft.bind after
  · exact plainRight.bind after

end IsPlain

theorem plain_peek : IsPlain peek := by
  refine .bind .get fun words => ?_
  split <;> exact .pure _

theorem plain_next : IsPlain next := by
  refine .bind .get fun words => ?_
  split <;> exact .bind (.set _) fun _ => .pure _

theorem plain_line : IsPlain line := .bind .get fun _ => .pure _

theorem plain_takeRest : IsPlain takeRest :=
  .bind .get fun _ => .bind (.set _) fun _ => .pure _

private theorem plain_takeWords : IsPlain takeWords :=
  .bind .get fun _ => .bind (.set _) fun _ => .pure _

theorem plain_expectEnd (rule : String) : IsPlain (expectEnd rule) := by
  refine .bind plain_next fun token => ?_
  split
  · exact .refuseAt rule token
  · exact .pure _

theorem plain_asDouble (token : Token) : IsPlain (asDouble token) := by
  unfold asDouble
  have plain := token.plain_asDouble
  split
  · exact .pure _
  · rename_i fault failed
    exact fun _ => .error (plain fault failed)

theorem plain_single : IsPlain single :=
  .bind plain_next fun token => .bind (plain_asDouble token) fun _ => .pure _

theorem plain_integer (rule : String) : IsPlain (integer rule) := by
  refine .bind plain_next fun token => ?_
  exact .guard (.refuseAt rule token) (.pure _)

private theorem plain_arrayOptions (options : ArrayOptions) (lexemes : List Cursor.Lexeme) :
    Plain (arrayOptions options lexemes) := by
  fun_induction arrayOptions options lexemes with
  | case1 | case2 | case5 => exact .ok _
  | case3 _ _ _ _ _ ih | case4 _ _ _ _ _ ih => exact ih
  | case6 => exact plain_complain _ _

theorem plain_arrayDraw : IsPlain arrayDraw := by
  refine .bind .get fun words => .bind (.lift (plain_arrayOptions _ _)) fun ⟨options, rest⟩ => ?_
  dsimp only
  split
  · exact .refuse _
  · refine .bind (.set _) fun _ => .bind (plain_integer _) fun first => ?_
    refine .bind (plain_integer _) fun count => .bind plain_peek fun following => ?_
    refine .choose ((plain_integer _).map _) (.pure _) fun instances => ?_
    exact .bind (plain_expectEnd _) fun _ => .pure _

theorem plain_rectangleDraw : IsPlain rectangleDraw := by
  refine .bind plain_takeWords fun options => ?_
  have area : IsPlain (do
      let x ← single
      let y ← single
      let width ← single
      let height ← single
      expectEnd "Extra parameter to draw rect command"
      return (⟨options.contains "ortho", options.contains "patch", ⟨x, y, width, height⟩⟩ :
        RectangleDraw)) :=
    .bind plain_single fun _ => .bind plain_single fun _ => .bind plain_single fun _ =>
      .bind plain_single fun _ => .bind (plain_expectEnd _) fun _ => .pure _
  dsimp only
  split
  · exact .bind (.refuseAt _ _) fun _ => area
  · exact area

theorem plain_gridSize (first : Token) : IsPlain (gridSize first) := by
  unfold gridSize
  refine .guard (.refuseAt _ _) (.bind (plain_integer _) fun _ => ?_)
  exact .bind (plain_integer _) fun _ => .bind (plain_expectEnd _) fun _ => .pure _

theorem plain_stencilValue : IsPlain stencilValue :=
  .bind plain_next fun _ => .guard (.refuseAt _ _) (.guard (.refuseAt _ _) (.pure _))

theorem plain_color : IsPlain color :=
  .bind plain_single fun _ => .bind plain_single fun _ => .bind plain_single fun _ =>
    .bind plain_single fun _ => .pure _

theorem plain_entryPointName : IsPlain entryPointName :=
  .bind plain_next fun _ => .guard (.refuse _) (.guard (.refuseAt _ _)
    (.bind (plain_expectEnd _) fun _ => .pure _))

theorem plain_patchVertexCount : IsPlain patchVertexCount :=
  .bind plain_next fun _ => .guard (.refuseAt _ _) (.bind plain_next fun _ =>
    .guard (.refuseAt _ _) (.bind (plain_integer _) fun _ =>
      .bind (plain_expectEnd _) fun _ => .pure _))

theorem plain_slot (first : Nat) (command : String) : IsPlain (slot first command) := by
  refine .bind plain_peek fun token => ?_
  split
  · refine .bind plain_next fun token => ?_
    split
    · exact .refuseAt _ _
    · exact .guard (.refuseAt _ _) (.pure _)
  · exact .pure _

private theorem plain_valueOf (command : String) (isFloat : Bool) (token : Token) :
    Plain (valueOf command isFloat token) := by
  unfold valueOf
  split
  · split
    · exact token.plain_asDouble.map _
    · exact plain_complain _ _
  · split
    · exact .ok _
    · exact plain_complain _ _

theorem plain_values (command : String) (format : Format) : IsPlain (values command format) :=
  .bind plain_takeRest fun _ => .bind (.lift (.mapM (plain_valueOf _ _) _)) fun _ =>
    .guard (.refuse _) (.pure _)

theorem plain_offset (rules : OffsetRules) (format : Format) : IsPlain (offset rules format) :=
  .bind (plain_integer _) fun _ => .guard (.refuseAt _ _) (.guard (.refuse _) (.pure _))

theorem plain_comparator : IsPlain comparator := by
  refine .bind plain_next fun token => .guard (.refuseAt _ _) ?_
  split
  · exact .pure _
  · exact .refuseAt _ _

theorem plain_format (name : String) : IsPlain (format name) := by
  have plain : Plain (Format.ofDatum name) := by
    refine Plain.map ?_ _
    unfold ElementType.ofDatum
    split
    · exact .ok _
    · exact .error rfl
  unfold format
  split
  · exact .pure _
  · rename_i fault failed
    exact fun _ => .error (plain fault failed)

theorem plain_accept (token : Token) : IsPlain (accept token) := by
  refine .bind plain_peek fun found => ?_
  split
  · exact .bind plain_next fun _ => .pure _
  · exact .pure _

private theorem plain_singleAfterComma : IsPlain singleAfterComma :=
  .bind (plain_accept _) fun _ => plain_single

theorem IsPlain.mapM {Item Result : Type} {operation : Item → Reader Result}
    (plain : ∀ item, IsPlain (operation item)) (items : List Item) :
    IsPlain (items.mapM operation) := by
  induction items with
  | nil => exact .pure []
  | cons item items ih =>
    rw [List.mapM_cons]
    exact .bind (plain item) fun _ => ih.bind fun _ => .pure _

private theorem plain_group (count : Nat) : IsPlain (group count) := by
  refine .bind (plain_accept _) fun isOpen => .bind plain_single fun first => ?_
  refine .bind (.mapM (fun _ => plain_singleAfterComma) _) fun others => ?_
  refine .bind plain_peek fun following => ?_
  split
  · exact .guard (.refuse _) (.bind plain_next fun _ => .pure _)
  · split
    · exact .bind (.refuse _) fun _ => .pure _
    · exact .pure _

private theorem plain_channels (token : Token) : IsPlain (channels token) := by
  unfold channels
  split
  · exact .pure _
  · exact .pure _
  · exact .refuseAt _ _

private theorem plain_probeWord : IsPlain probeWord :=
  .bind plain_next fun _ => .guard (.refuseAt _ _) (.pure _)

theorem plain_probe (first : Token) (start : Probe) : IsPlain (probe first start) := by
  unfold probe
  refine .choose plain_probeWord (.pure _) fun kind => .bind (plain_channels _) fun channels => ?_
  refine .choose (.pure _) (plain_group _) fun area => .bind (plain_group _) fun color => ?_
  exact .bind (plain_expectEnd _) fun _ => .pure _

private theorem plain_tolerancesFrom (found : Nat) (tokens : List Token) :
    Plain (tolerancesFrom found tokens) := by
  fun_induction tolerancesFrom found tokens with
  | case1 | case2 => exact .ok _
  | case3 _ _ _ ih => exact ih
  | case4 => exact plain_complain _ _
  | case5 found token rest _ _ _ ih =>
    refine .bind token.plain_asDouble fun double => ?_
    dsimp only
    split
    · exact .bind ih fun _ => .ok _
    · exact plain_complain _ _
    · rename_i percent word
      have inner : Plain (tolerancesFrom (found + 1) rest) := by
        split at ih
        · exact absurd rfl (percent _)
        · exact absurd rfl (word _ _)
        · exact ih
      exact .bind inner fun _ => .ok _

theorem plain_tolerances : IsPlain tolerances := by
  refine .bind plain_takeRest fun tokens => ?_
  refine .bind (.lift (plain_tolerancesFrom 0 tokens)) fun ⟨tolerances, unread⟩ => ?_
  refine .guard (.refuse _) (.guard (.refuse _) ?_)
  split
  · exact .pure _
  · exact .refuseAt _ _

end Reader

namespace Setting

open Reader

theorem plain_firstToken (keyword noun : String) : IsPlain (firstToken keyword noun) :=
  .bind plain_next fun _ => .guard (.refuse _) (.pure _)

theorem plain_firstWord (keyword noun : String) : IsPlain (firstWord keyword noun) :=
  .bind (plain_firstToken _ _) fun _ => .guard (.refuseAt _ _) (.pure _)

theorem plain_close (keyword : String) : IsPlain (close keyword) := plain_expectEnd _

private theorem plain_readFlag (keyword : String) : IsPlain (readFlag keyword) := by
  refine .bind (plain_firstWord _ _) fun token => ?_
  split
  · exact .refuseAt _ _
  · exact .bind (plain_close _) fun _ => .pure _

private theorem plain_readNumber (keyword : String) : IsPlain (readNumber keyword) :=
  .bind (plain_firstToken _ _) fun _ => .bind (plain_asDouble _) fun _ =>
    .bind (plain_close _) fun _ => .pure _

private theorem plain_readReference (keyword : String) : IsPlain (readReference keyword) :=
  .bind (plain_firstToken _ _) fun _ => .guard (.refuseAt _ _)
    (.bind (plain_close _) fun _ => .pure _)

private theorem plain_readChoice {Item : Type} (spellings : List (String × Item))
    (noun unknown keyword : String) : IsPlain (readChoice spellings noun unknown keyword) := by
  refine .bind (plain_firstWord _ _) fun token => ?_
  split
  · exact .refuseAt _ _
  · exact .bind (plain_close _) fun _ => .pure _

private theorem plain_joinTerms {Item : Type} {term : Token → Except Fault Item}
    (plain : ∀ token, Plain (term token)) (join : Item → Item → Item) (empty : Item)
    (tokens : List Token) : Plain (joinTerms term join empty tokens) := by
  refine .foldlM (fun joined token => ?_) _ _
  split
  · exact .ok _
  · exact (plain token).map _

private theorem plain_termOf {Item : Type} (spellings : List (String × Item)) (rule : String)
    (found : Token → String) (token : Token) : Plain (termOf spellings rule found token) := by
  unfold termOf
  split
  · exact .ok _
  · exact .error rfl

private theorem plain_readTerms {Item : Type} {term : Token → Except Fault Item}
    (plain : ∀ token, Plain (term token)) (keyword noun : String) (join : Item → Item → Item)
    (empty : Item) : IsPlain (readTerms keyword noun term join empty) := by
  refine .bind (plain_firstWord _ _) fun first => .bind plain_takeRest fun rest => ?_
  have joined := plain_joinTerms plain join empty (first :: rest)
  split
  · exact .pure _
  · rename_i fault failed
    exact fun _ => .error (joined fault failed)

def AllPlain (found : Option (Reader StateChange)) : Prop := ∀ change ∈ found, IsPlain change

theorem AllPlain.fromTable? {Item : Type} (fields : FieldTable Item)
    {reader : String → Reader Item} (plain : ∀ keyword, IsPlain (reader keyword))
    (keyword : String) : AllPlain (fromTable? fields reader keyword) := by
  intro change found
  obtain ⟨assign, -, rfl⟩ := Option.map_eq_some_iff.mp found
  exact (plain keyword).map _

theorem AllPlain.orElse {left right : Option (Reader StateChange)} (plainLeft : AllPlain left)
    (plainRight : AllPlain right) : AllPlain (left <|> right) := by
  cases left with
  | none => exact plainRight
  | some change => exact plainLeft

theorem plain_reader? (keyword : String) : AllPlain (reader? keyword) := by
  have mode {Item : Type} (spellings : List (String × Item)) (keyword : String) :
      IsPlain (readMode spellings keyword) := plain_readChoice _ _ _ _
  have parameter {Item : Type} (spellings : List (String × Item)) (kind keyword : String) :
      IsPlain (readParameter spellings kind keyword) := plain_readChoice _ _ _ _
  have cull : IsPlain readCullMode := plain_readTerms (plain_termOf _ _ _) _ _ _ _
  have mask : IsPlain readColorWriteMask := plain_readTerms (plain_termOf _ _ _) _ _ _ _
  refine .orElse (.fromTable? _ plain_readFlag _) (.orElse (.fromTable? _ plain_readNumber _) ?_)
  refine .orElse (.fromTable? _ plain_readReference _) (.orElse (.fromTable? _ (mode _) _) ?_)
  refine .orElse (.fromTable? _ (mode _) _) (.orElse (.fromTable? _ (mode _) _) ?_)
  refine .orElse (.fromTable? _ (mode _) _) (.orElse (.fromTable? _ (parameter _ _) _) ?_)
  refine .orElse (.fromTable? _ (parameter _ _) _) (.orElse (.fromTable? _ (parameter _ _) _) ?_)
  refine .orElse (.fromTable? _ (parameter _ _) _) (.orElse (.fromTable? _ (fun _ => cull) _) ?_)
  refine .orElse (.fromTable? _ (fun _ => mask) _) ?_
  intro change found
  split at found
  · cases found
    exact .refuse _
  · cases found

end Setting

namespace Buffer

open Edit (IsPlain)

theorem plain_requireFormat (buffer : Buffer) : Plain buffer.requireFormat := by
  unfold requireFormat
  split
  · exact .ok _
  · exact .error rfl

theorem plain_shapeOf (buffer : Buffer) (format : Format) : Plain (buffer.shapeOf format) := by
  unfold shapeOf
  split
  · exact .error rfl
  · exact .ok _

theorem plain_countFor (buffer : Buffer) (values : Nat) : Plain (buffer.countFor values) := by
  unfold countFor
  split
  · exact .ok _
  · split
    · exact .ok _
    · exact (plain_shapeOf _ _).map _

theorem plain_recordSize (values : List Value) (offset : Nat) :
    IsPlain (recordSize values offset) := by
  refine .bind .get fun buffer => .bind (.ofExcept (plain_requireFormat _)) fun format => ?_
  refine .bind .get fun buffer => .bind (.ofExcept (plain_shapeOf _ _)) fun shape => ?_
  exact .bind .get fun buffer => .ite (.change _) (.pure _)

private theorem plain_writeValue (field : BitField) (bytes : Array UInt8) (value : Value) :
    Plain (field.writeValue bytes value) := by
  have code : Plain (value.code field.width) := by
    unfold Value.code
    split
    · split
      · exact .ok _
      · exact .error rfl
    · split
      · exact .ok _
      · split
        · exact .ok _
        · split
          · exact .ok _
          · exact .error rfl
  refine code.bind fun pattern => ?_
  unfold BitField.write
  split
  · exact .error rfl
  · exact .ok _

private theorem plain_writeValues (format : Format) (start number : Nat) (values : List Value) :
    IsPlain (writeValues format start number values) := by
  induction values generalizing number with
  | nil => exact .pure _
  | cons value values ih =>
    refine .bind ?_ fun _ => ih _
    unfold writeValue
    split
    · exact .pure _
    · refine .bind .get fun buffer => .bind (.ofExcept (plain_writeValue _ _ _)) fun bytes => ?_
      exact .change _

theorem plain_overwrite (format : Format) (shape : Shape) (values : List Value) (offset : Nat) :
    IsPlain (overwrite format shape values offset) := by
  refine .bind (.change _) fun _ => .bind (.change _) fun _ => .bind .get fun buffer => ?_
  exact .ite (.bind (.throw rfl) fun _ => plain_writeValues _ _ _ _) (plain_writeValues _ _ _ _)

theorem plain_setDataAt (values : List Value) (offset : Nat) :
    IsPlain (setDataAt values offset) := by
  refine .bind .get fun buffer => .bind (.ofExcept (plain_requireFormat _)) fun format => ?_
  refine .bind .get fun buffer => .bind (.ofExcept (plain_shapeOf _ _)) fun shape => ?_
  have written := plain_overwrite format shape values offset
  refine .bind .get fun buffer => .ite ?_ written
  refine .bind ?_ fun _ => written
  exact .bind .get fun buffer => .bind (.ofExcept (plain_countFor _ _)) fun _ => .change _

end Buffer

end GpuScript
