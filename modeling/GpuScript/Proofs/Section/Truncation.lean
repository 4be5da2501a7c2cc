import Mathlib.Tactic.FinCases
import GpuScript.Proofs.Section.Buffers
import GpuScript.Proofs.Section.Numerals
import GpuScript.Proofs.Section.Steps
import GpuScript.Section.Run

namespace GpuScript

namespace Session

open Numeral

variable {session final : Session}

/-- A session has become another that has recorded one more command, which keeps some numerals. -/
private def Keeps (numerals : List Numeral) (before after : Session) : Prop :=
  ∀ numeral ∈ numerals, ∃ command, after.commands = before.commands ++ [command] ∧
    numeral.KeptBy (command.number? after.script)

theorem kept_fill {rules : Reader.OffsetRules} {command : String} {id : Id Buffer}
    {format : Format} {written : Nat × List Value}
    (done : (fill rules command id format).apply session = (.ok written, final))
    (faithful : session.words.Faithful) {numbers : NumberPlace → Option Nat}
    (number : numbers .offset = some written.1) :
    ∀ numeral ∈ atPlaces [.offset] session.words.tokens, numeral.KeptBy numbers := by
  obtain ⟨agreed, between, words, agreeing, reading, -, -⟩ := fill_parts done
  obtain ⟨script, rfl, -, -⟩ := agreeOnFormat_ok agreeing
  obtain ⟨-, positive, low, -, -⟩ := Reader.offset_ok reading
  exact faithful.kept_first .offset (number.trans (congrArg some low)) fun _ => positive

private theorem storageSize_count {id : Id Buffer}
    (done : (storageSize id).apply session = (.ok ⟨⟩, final)) :
    ∃ words script, final = { session with words, script } ∧
      (script.buffers.store.get? id).map (·.elementCount) = some session.words.head.low := by
  obtain ⟨-, -, buffer, sized, words, present, rfl, ⟨-, rfl⟩ | ⟨-, rfl⟩⟩ := storageSize_parts done
  · refine ⟨words, _, rfl, ?_⟩
    rw [Script.get?_setBuffer, if_pos rfl, present]
    rfl
  · refine ⟨words, _, rfl, ?_⟩
    change (((Script.setBuffer _ id _).buffers.store.get? id).map (·.elementCount)) = _
    rw [Script.get?_setBuffer, if_pos rfl, Script.get?_setBuffer, if_pos rfl, present]
    rfl

private theorem keeps_storage (faithful : session.words.Faithful)
    (done : storage.apply session = (.ok ⟨⟩, final)) :
    Keeps (ofStorage session.words.tokens) session final := by
  obtain ⟨-, slot, words, buffer, bound, filled, write, slotted, binding, body, rfl⟩ :=
    storage_parts done
  have behind := faithful.follows ((Reader.slot_ok slotted).trans session.words.follows_tail)
  obtain ⟨script, rfl, -⟩ := bufferAt_ok binding
  obtain ⟨rest, kept⟩ := faithful.kept_slot slotted
  intro numeral member
  rw [ofStorage, ← rest, List.mem_append] at member
  rcases body with ⟨named, written, writing, rfl⟩ | ⟨named, sizing, rfl⟩
  · obtain ⟨-, format, -, filling⟩ := storageData_parts writing
    obtain ⟨_, _, rfl, -⟩ := fill_ok filling
    refine ⟨_, rfl, ?_⟩
    rcases member with slotted | offset
    · exact (kept numeral slotted).of_slot rfl rfl
    · rw [if_pos ((behind.beginsWith_iff (by decide)).mpr named), words.drop_tokens] at offset
      exact kept_fill filling behind.tail.tail rfl numeral offset
  · obtain ⟨_, left, rfl, counted⟩ := storageSize_count sizing
    refine ⟨_, rfl, ?_⟩
    rcases member with slotted | size
    · exact (kept numeral slotted).of_slot rfl rfl
    · rw [if_neg (mt (behind.beginsWith_iff (by decide)).mp named)] at size
      exact behind.kept_first .size counted nofun numeral size

private theorem keeps_uniformBuffer {head : CommandHead} (faithful : session.words.Faithful)
    (done : (uniformBuffer head).apply session = (.ok ⟨⟩, final)) :
    Keeps ((Numeral.slot session.words.tokens).1 ++
      atPlaces [.offset] (Numeral.slot session.words.tokens).2.tail) session final := by
  obtain ⟨-, slot, words, buffer, bound, format, written, filled, slotted, -, binding, -, filling,
    rfl⟩ := uniformBuffer_parts done
  have behind := faithful.follows ((Reader.slot_ok slotted).trans session.words.follows_tail)
  obtain ⟨script, rfl, -⟩ := bufferAt_ok binding
  obtain ⟨rest, kept⟩ := faithful.kept_slot slotted
  obtain ⟨_, _, rfl, -⟩ := fill_ok filling
  intro numeral member
  rw [← rest, words.tail_tokens, List.mem_append] at member
  refine ⟨_, rfl, ?_⟩
  rcases member with slotted | offset
  · exact (kept numeral slotted).of_slot rfl rfl
  · exact kept_fill filling behind.tail rfl numeral offset

private theorem keeps_pushConstants {head : CommandHead} {typeName : String}
    (faithful : session.words.Faithful)
    (done : (pushConstants head typeName).apply session = (.ok ⟨⟩, final)) :
    Keeps (atPlaces [.offset] session.words.tokens) session final := by
  obtain ⟨buffer, made, format, written, filled, held, making, -, filling, holding, rfl⟩ :=
    pushConstants_parts done
  obtain ⟨script, rfl, -⟩ := makeBuffer_ok making
  obtain ⟨_, _, rfl, -, own, -⟩ := fill_ok filling
  obtain ⟨_, rfl, -⟩ := setDataAt_ok own holding
  intro numeral member
  exact ⟨_, rfl, kept_fill filling faithful rfl numeral member⟩

private theorem keeps_probeStorage (faithful : session.words.Faithful)
    (done : probeStorage.apply session = (.ok ⟨⟩, final)) :
    Keeps ((Numeral.slot session.words.tail.tokens).1 ++
      atPlaces [.probeOffset] (Numeral.slot session.words.tail.tokens).2) session final := by
  obtain ⟨-, -, format, slot, slotted, buffer, agreed, comparator, values, between, words, -,
    slotRead, -, agreeing, -, -, -, rfl⟩ := probeStorage_parts done
  have behind := faithful.tail.follows
    ((Reader.slot_ok slotRead).trans session.words.tail.follows_tail)
  obtain ⟨script, rfl, -, -⟩ := agreeOnFormat_ok agreeing
  obtain ⟨rest, kept⟩ := faithful.tail.kept_slot slotRead
  intro numeral member
  rw [← rest, List.mem_append] at member
  refine ⟨_, rfl, ?_⟩
  rcases member with slotted | offset
  · exact (kept numeral slotted).of_slot rfl rfl
  · exact behind.kept_first .probeOffset rfl nofun numeral offset

private theorem keeps_arrays {draw : ArrayDraw} {words : Words} {head : CommandHead}
    (faithful : session.words.Faithful) (isWord : session.words.head.isWord = true)
    (reading : Reader.arrayDraw.run session.words.tail = .ok (draw, words)) :
    Keeps (ofDraw session.words.tokens) session
      (recorded { session with words } (.drawArrays head session.state draw)) := by
  obtain ⟨first, count, rest, tokens, firstVertex, vertexCount, instances⟩ :=
    Reader.arrayDraw_ok faithful.tail.toProper reading
  have skipped : session.words.tokens.dropWhile (·.isWord) = first :: count :: rest := by
    rw [faithful.tokens_of_solid (Token.isEnd_of_isWord isWord), List.dropWhile_cons_of_pos isWord,
      tokens]
  intro numeral member
  rw [ofDraw] at member
  split at member
  · refine ⟨_, rfl, ?_⟩
    refine kept_atPlaces (fun token inside => faithful.tokens token
      ((List.dropWhile_sublist _).subset inside)) ?_ numeral member
    rw [skipped]
    rcases instances with rfl | ⟨instances, rfl, instanceCount⟩
    · simp [Command.number?, firstVertex, vertexCount]
    · simp [Command.number?, firstVertex, vertexCount, instanceCount]
  · cases member

theorem ofProbe_other {words : Words} (proper : words.Proper) (named : words.head.text ≠ "ssbo") :
    ofProbe words.tokens = [] := by
  rw [ofProbe, if_neg (mt (proper.beginsWith_iff (by decide)).mp named)]

theorem ofProbe_stored {words : Words} (proper : words.Proper) (named : words.head.text = "ssbo") :
    ofProbe words.tokens = (Numeral.slot words.tail.tail.tokens).1 ++
      atPlaces [.probeOffset] (Numeral.slot words.tail.tail.tokens).2 := by
  rw [ofProbe, if_pos ((proper.beginsWith_iff (by decide)).mpr named), words.drop_tokens]

theorem ofCommand_probe {name : String} {start : Session} (position : ProbeAt session name start) :
    ofCommand name session.words.tokens = ofProbe start.words.tokens := by
  cases position with
  | plain => rfl
  | relative =>
    change ofProbe session.words.tokens.tail = ofProbe session.words.tail.tokens
    rw [session.words.tail_tokens]

/-- Words with numerals behind them are no keywords of state commands. -/
theorem ofCommand_setting {name : String} {reader : Reader StateChange}
    (known : Setting.reader? name = some reader) (tokens : List Token) :
    ofCommand name tokens = [] := by
  have unknown : ∀ keyword ∈ ["ssbo", "uniform", "probe", "relative", "draw", "compute", "patch"],
      (Setting.reader? keyword).isNone = true := by decide +kernel
  have other : name ∉ ["ssbo", "uniform", "probe", "relative", "draw", "compute", "patch"] := by
    intro member
    have none := unknown name member
    rw [known] at none
    cases none
  unfold ofCommand
  split <;> first | rfl | exact absurd (by decide) other

/-- Each command that succeeds keeps the numerals of its statement. -/
private theorem keeps_of_performed {name : String} (faithful : session.words.Faithful)
    (performed : Performed session name final) :
    Keeps (ofCommand name session.words.tokens) session final := by
  cases performed with
  | rectangle _ _ _ _ _ named =>
    change Keeps (ofDraw _) _ _
    rw [ofDraw, if_neg ?_]
    · exact nofun
    · rw [faithful.beginsWith_iff (by decide), named]
      decide
  | arrays isWord _ reading => exact keeps_arrays faithful isWord reading
  | clear | tolerance | tessellation => exact nofun
  | storage done => exact keeps_storage faithful done
  | uniformBuffer _ named done =>
    change Keeps (ofUniform _) _ _
    rw [ofUniform, if_pos ((faithful.beginsWith_iff (by decide)).mpr named),
      session.words.tail_tokens]
    exact keeps_uniformBuffer faithful.tail done
  | pushConstants _ named done =>
    change Keeps (ofUniform _) _ _
    rw [ofUniform, if_neg (mt (faithful.beginsWith_iff (by decide)).mp named),
      session.words.tail_tokens]
    exact keeps_pushConstants faithful.tail done
  | patch reading =>
    obtain ⟨parameter, vertices, number, tokens, -, -, -, rfl⟩ :=
      Reader.patchVertexCount_ok faithful.toProper reading
    intro numeral member
    refine ⟨_, rfl, ?_⟩
    refine kept_atPlaces (fun token inside => faithful.tokens token (List.mem_of_mem_drop inside))
      ?_ numeral member
    rw [tokens]
    simp [Command.number?]
  | probe _ _ position _ named =>
    rw [ofCommand_probe position, ofProbe_other (faithful.follows position.follows).toProper named]
    exact nofun
  | storedProbe position _ named done =>
    have behind := faithful.follows position.follows
    rw [ofCommand_probe position, ofProbe_stored behind.toProper named]
    have keeps := keeps_probeStorage behind.tail done
    obtain ⟨words, rfl⟩ := position.exists_words
    exact keeps
  | compute reading =>
    obtain ⟨x, y, z, tokens, -, rfl⟩ := Reader.gridSize_ok faithful.toProper reading
    intro numeral member
    refine ⟨_, rfl, ?_⟩
    change numeral ∈ ofCompute _ at member
    rw [ofCompute] at member
    split at member
    · cases member
    · refine kept_atPlaces faithful.tokens ?_ numeral member
      rw [tokens]
      simp [Command.number?]
  | computeEntry _ _ named =>
    change Keeps (ofCompute _) _ _
    rw [ofCompute, if_pos ((faithful.beginsWith_iff (by decide)).mpr named)]
    exact nofun
  | stage _ _ _ keyword => fin_cases keyword <;> exact nofun
  | setting known =>
    rw [ofCommand_setting known]
    exact nofun

end Session

def Statement.numerals (statement : Statement) : List Numeral :=
  Numeral.ofCommand statement.first.token.text (Session.wordsOf statement).tokens

namespace Session

theorem faithful_wordsOf {text : String} {line : Nat} {statement : Statement}
    (member : statement ∈ Statement.ofText text line) : (wordsOf statement).Faithful where
  toProper := Statement.proper_of_mem member
  tokens := Statement.faithful_of_mem member

end Session

namespace Script

open Numeral Session

/-- In a section that is read to its end each statement with numerals has recorded a command, and
has kept there, or with its buffer, a word for each of them. That word is below a bound, and it is
the number that the literal spells exactly for those numerals that are kept as such. -/
theorem readSection_numerals {script : Script} {id : Id Pipeline} {line : Nat} {text : String}
    (done : (script.readSection id line text).1 = .ok ⟨⟩) :
    ∀ earlier statement later, Statement.ofText text line = earlier ++ statement :: later →
      ∀ numeral ∈ statement.numerals,
        ∃ command ∈ (script.readSection id line text).2.commands,
          (script.sessionAfter id (earlier ++ [statement])).commands =
            (script.sessionAfter id earlier).commands ++ [command] ∧
          command.number? (script.sessionAfter id (earlier ++ [statement])).script numeral.place =
            some numeral.stored ∧
          numeral.stored < numeral.place.limit ∧
          ((numeral.stored : Int) = numeral.value ↔ numeral.Exact) := by
  intro earlier statement later parted numeral member
  obtain ⟨step, reached, rest, left⟩ := readSection_step done parted
  have faithful : ∀ other ∈ earlier ++ statement :: later, (wordsOf other).Faithful :=
    fun _ inside => faithful_wordsOf (parted ▸ inside)
  obtain ⟨command, recorded, kept⟩ := keeps_of_performed
    (faithful statement (by simp)) (performed_of_execute step).2 numeral member
  obtain ⟨further, -⟩ := executeAll_ok
    (fun other inside => (faithful other (by simp [inside])).toProper) rest
  refine ⟨command, ?_, recorded, kept.number, kept.bound, stored_eq_value_iff kept.literal⟩
  rw [left]
  change command ∈ reached.commands
  rw [further, show (script.sessionAfter id (earlier ++ [statement])).commands = _ from recorded]
  simp

/-- A size in hexadecimal digits is kept with the buffer as the number that they spell. -/
theorem readSection_numerals_size :
    let script := SectionTarget.compute.script
    let text := "ssbo 1:3 0x10\n"
    let after := script.sessionAfter ⟨0⟩ (Statement.ofText text 1)
    (script.readSection ⟨0⟩ 1 text).1 = .ok ⟨⟩ ∧
      ∃ command, after.commands = [command] ∧ command.number? after.script .size = some 16 ∧
        (16 : Int) = Literal.value ['0', 'x', '1', '0'] := by
  intro script text after
  have done : (script.readSection ⟨0⟩ 1 text).1 = .ok ⟨⟩ := by decide +kernel
  obtain ⟨statement, one⟩ := List.length_eq_one_iff.mp
    (show (Statement.ofText text 1).length = 1 by decide +kernel)
  have member : { place := .size, literal := ['0', 'x', '1', '0'] } ∈
      (Statement.ofText text 1).flatMap Statement.numerals := by decide +kernel
  rw [one, List.flatMap_singleton] at member
  obtain ⟨command, -, recorded, number, -, exact⟩ :=
    readSection_numerals done [] statement [] one _ member
  rw [List.nil_append, ← one] at recorded number
  exact ⟨done, command, recorded, number, exact.mpr (by decide)⟩

/-- An offset below the least 32-bit number with a sign is not refused, and kept as its low bits. -/
theorem readSection_numerals_truncated :
    let script := SectionTarget.compute.script
    let text := "ssbo 0 subdata uint -4294967292 7\n"
    let final := (script.readSection ⟨0⟩ 1 text).2
    (script.readSection ⟨0⟩ 1 text).1 = .ok ⟨⟩ ∧
      ((Statement.ofText text 1).flatMap Statement.numerals).map
          (fun numeral => (numeral.place, numeral.value)) =
        [(.binding, 0), (.offset, -4294967292)] ∧
      final.commands.map (·.number? final.script .offset) = [some 4] := by
  decide +kernel

end Script

end GpuScript
