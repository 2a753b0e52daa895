import LicenseGate.Proofs.BlockPolicy
import LicenseGate.Proofs.InstanceRun

/-!
Muting over a run of any length. A saturated counter loses the place of a block, so the proof does
not follow positions: until the run count reaches silence it is still exact, and from then on every
block is overwritten, wherever it is taken to start.
-/

namespace LicenseGate

def GateAction.rank : GateAction → Nat
  | .passed => 0
  | .faded => 1
  | .silenced => 2

theorem GateAction.rank_le_silenced (action : GateAction) :
    action.rank ≤ GateAction.silenced.rank := by
  cases action <;> decide

def Staged (actions : List GateAction) : Prop :=
  ∃ passed faded silenced, actions =
    List.replicate passed .passed ++ (List.replicate faded .faded ++
      List.replicate silenced .silenced)

theorem staged_of_ordered (actions : List GateAction)
    (ordered : actions.Pairwise fun first second => first.rank ≤ second.rank) :
    Staged actions := by
  induction actions with
  | nil => exact ⟨0, 0, 0, rfl⟩
  | cons action rest ih =>
      obtain ⟨above, tail⟩ := List.pairwise_cons.mp ordered
      obtain ⟨passed, faded, silenced, same⟩ := ih tail
      have absent (other : GateAction) (lower : other.rank < action.rank) : other ∉ rest := by
        intro member
        exact Nat.not_le.mpr lower (above other member)
      cases action with
      | passed => exact ⟨passed + 1, faded, silenced, by rw [same]; rfl⟩
      | faded =>
          cases passed with
          | zero => exact ⟨0, faded + 1, silenced, by rw [same]; rfl⟩
          | succ passed => exact absurd (by simp [same]) (absent .passed (by decide))
      | silenced =>
          cases passed with
          | succ passed => exact absurd (by simp [same]) (absent .passed (by decide))
          | zero =>
              cases faded with
              | succ faded => exact absurd (by simp [same]) (absent .faded (by decide))
              | zero => exact ⟨0, 0, silenced + 1, by rw [same]; rfl⟩

/-- A block small enough for the counter to tell, even when saturated, that silence is reached. -/
def Block.Fits (timing : GateTiming) (block : Block) : Prop :=
  block.size.toNat + timing.silentFrom.toNat ≤ lastPosition

instance (timing : GateTiming) (block : Block) : Decidable (block.Fits timing) := Nat.decLe _ _

namespace Instance

def Reached (plugin : Instance) : Prop :=
  plugin.gate.timing.silentFrom.toNat ≤ plugin.runCount.toNat

instance (plugin : Instance) : Decidable plugin.Reached := Nat.decLe _ _

def stage (plugin : Instance) : Nat :=
  if plugin.Reached then 2
  else if plugin.gate.timing.grace.toNat < plugin.runCount.toNat then 1
  else 0

theorem outcome_reached (plugin : Instance) (block : Block) (buffer : Buffer)
    (unlicensed : plugin.verdict = .unlicensed) (fits : block.Fits plugin.gate.timing)
    (reached : plugin.Reached) (member : buffer ∈ block.outputs) :
    (plugin.runBegin block.size).outcome buffer =
      (.silenced, buffer.map fun _ => Sample.zero) := by
  have start : plugin.gate.timing.silentFrom.toNat ≤
      GateTiming.blockStart (Counter.advance plugin.runCount block.size) buffer.length := by
    rw [GateTiming.blockStart, Counter.toNat_advance, block.filled buffer member]
    simp only [Block.Fits, Reached] at fits reached
    omega
  simpa only [outcome, runBegin, Gate.outcome, unlicensed] using
    plugin.gate.timing.silence_overwrites _ buffer (block.short buffer member) start

theorem outcome_early (plugin : Instance) (block : Block) (buffer : Buffer)
    (unlicensed : plugin.verdict = .unlicensed) (fits : block.Fits plugin.gate.timing)
    (early : ¬ plugin.Reached) (member : buffer ∈ block.outputs) :
    ((plugin.runBegin block.size).outcome buffer).1 =
      if plugin.runCount.toNat + block.size.toNat ≤ plugin.gate.timing.grace.toNat then .passed
      else .faded := by
  simp only [Block.Fits, Reached] at fits early
  have start : GateTiming.blockStart (Counter.advance plugin.runCount block.size) buffer.length =
      plugin.runCount.toNat := by
    rw [GateTiming.blockStart, Counter.toNat_advance, block.filled buffer member]
    omega
  have action := plugin.gate.timing.silence_action
    (Counter.advance plugin.runCount block.size) buffer (block.short buffer member)
  rw [start, if_neg early, block.filled buffer member] at action
  simpa only [outcome, runBegin, Gate.outcome, unlicensed] using action

theorem reached_next (plugin : Instance) (block : Block) (fits : block.Fits plugin.gate.timing)
    (reached : plugin.Reached) : (plugin.runBlock .on block).1.Reached := by
  obtain ⟨-, timing, runCount⟩ := run_block_next plugin block
  simp only [Reached, Block.Fits] at fits reached ⊢
  rw [timing, runCount]
  omega

theorem run_reached (plugin : Instance) (blocks : List Block)
    (unlicensed : plugin.verdict = .unlicensed)
    (fits : ∀ block ∈ blocks, block.Fits plugin.gate.timing) (reached : plugin.Reached) :
    plugin.runOutputs blocks =
        blocks.map (fun block => block.outputs.map fun buffer => buffer.map fun _ => Sample.zero) ∧
      plugin.runActions blocks =
        blocks.map fun block => block.outputs.map fun _ => GateAction.silenced := by
  induction blocks generalizing plugin with
  | nil => exact ⟨rfl, rfl⟩
  | cons block rest ih =>
      have first := fits block List.mem_cons_self
      obtain ⟨verdict, timing, -⟩ := run_block_next plugin block
      obtain ⟨outputs, actions⟩ := ih (plugin.runBlock .on block).1 (verdict.trans unlicensed)
        (fun later member => by rw [timing]; exact fits later (List.mem_cons_of_mem block member))
        (reached_next plugin block first reached)
      have gated (buffer : Buffer) (member : buffer ∈ block.outputs) :=
        outcome_reached plugin block buffer unlicensed first reached member
      constructor
      · rw [runOutputs, outputs, (runBlock_exact plugin block).1, List.map_cons]
        congr 1
        exact List.map_congr_left fun buffer member => by rw [gated buffer member]
      · rw [runActions, actions, bufferActions_exact, List.map_cons]
        congr 1
        exact List.map_congr_left fun buffer member => by rw [gated buffer member]

end Instance

namespace Cut

/-- A block is muted at least as far as the run was before it, and the run after it at least as
far as the block. -/
theorem action_between (plugin : Instance) (cut : Cut) (unlicensed : plugin.verdict = .unlicensed)
    (fits : cut.block.Fits plugin.gate.timing) :
    plugin.stage ≤ ((plugin.runBegin cut.block.size).outcome cut.input).1.rank ∧
      ((plugin.runBegin cut.block.size).outcome cut.input).1.rank ≤
        (plugin.runBlock .on cut.block).1.stage := by
  obtain ⟨-, timing, runCount⟩ := plugin.run_block_next cut.block
  -- The counter is exact until silence is reached, and what follows is overwritten anyway.
  by_cases reached : plugin.Reached
  · have next := plugin.reached_next cut.block fits reached
    rw [plugin.outcome_reached cut.block cut.input unlicensed fits reached cut.input_member]
    simp [Instance.stage, reached, next, GateAction.rank]
  have action := plugin.outcome_early cut.block cut.input unlicensed fits reached cut.input_member
  by_cases grace : plugin.runCount.toNat + cut.block.size.toNat ≤ plugin.gate.timing.grace.toNat
  · have before : ¬ plugin.gate.timing.grace.toNat < plugin.runCount.toNat := by omega
    rw [action, if_pos grace]
    simp [Instance.stage, reached, before, GateAction.rank]
  · have after : plugin.gate.timing.grace.toNat <
        (plugin.runBlock .on cut.block).1.runCount.toNat := by
      simp only [Block.Fits, Instance.Reached] at fits reached
      rw [runCount]
      omega
    rw [action, if_neg grace]
    constructor
    · simp only [Instance.stage, if_neg reached, GateAction.rank]
      split <;> decide
    · simp only [Instance.stage, timing, if_pos after, GateAction.rank]
      split <;> decide

theorem actions_ordered (plugin : Instance) (cuts : List Cut)
    (unlicensed : plugin.verdict = .unlicensed)
    (fits : ∀ cut ∈ cuts, cut.block.Fits plugin.gate.timing) :
    (∀ action ∈ actions plugin cuts, plugin.stage ≤ action.rank) ∧
      (actions plugin cuts).Pairwise fun first second => first.rank ≤ second.rank := by
  -- The first half is what the induction needs: the stage only rises from block to block.
  induction cuts generalizing plugin with
  | nil => exact ⟨fun _ member => absurd member List.not_mem_nil, List.Pairwise.nil⟩
  | cons cut rest ih =>
      obtain ⟨above, below⟩ := action_between plugin cut unlicensed (fits cut List.mem_cons_self)
      obtain ⟨verdict, timing, -⟩ := plugin.run_block_next cut.block
      obtain ⟨later, ordered⟩ := ih (plugin.runBlock .on cut.block).1 (verdict.trans unlicensed)
        (fun next member => by rw [timing]; exact fits next (List.mem_cons_of_mem cut member))
      rw [actions_cons]
      constructor
      · intro action member
        rcases List.mem_cons.mp member with first | next
        · rw [first]
          exact above
        · exact Nat.le_trans above (Nat.le_trans below (later action next))
      · exact List.pairwise_cons.mpr
          ⟨fun action member => Nat.le_trans below (later action member), ordered⟩

theorem actions_length (plugin : Instance) (cuts : List Cut) :
    (actions plugin cuts).length = cuts.length := by
  induction cuts generalizing plugin with
  | nil => rfl
  | cons cut rest ih => rw [actions_cons, List.length_cons, ih, List.length_cons]

end Cut

/-- Blocks of any sizes that fit, for as long as the run lasts: a channel passes, then fades, then
is silenced, and once the run count has reached silence every output is all zeros. -/
theorem muting_never_recedes (plugin : Instance) (unlicensed : plugin.verdict = .unlicensed) :
    (∀ cuts : List Cut, (∀ cut ∈ cuts, cut.block.Fits plugin.gate.timing) →
      (Cut.actions plugin cuts).length = cuts.length ∧ Staged (Cut.actions plugin cuts)) ∧
    (∀ before rest : List Block,
      (∀ block ∈ before ++ rest, block.Fits plugin.gate.timing) →
      plugin.gate.timing.silentFrom ≤ (plugin.runAll before).runCount →
      (plugin.runOutputs (before ++ rest)).drop before.length =
          rest.map (fun block => block.outputs.map fun buffer =>
            List.replicate buffer.length Sample.zero) ∧
        (plugin.runActions (before ++ rest)).drop before.length =
          rest.map fun block => block.outputs.map fun _ => GateAction.silenced) := by
  constructor
  · intro cuts fits
    exact ⟨Cut.actions_length plugin cuts,
      staged_of_ordered _ (Cut.actions_ordered plugin cuts unlicensed fits).2⟩
  · intro before rest fits reached
    obtain ⟨verdict, timing⟩ := plugin.run_all_keeps before
    have later : ∀ block ∈ rest, block.Fits (plugin.runAll before).gate.timing := by
      intro block member
      rw [timing]
      exact fits block (List.mem_append_right before member)
    obtain ⟨outputs, actions⟩ := (plugin.runAll before).run_reached rest (verdict.trans unlicensed)
      later (by rwa [Instance.Reached, timing, ← UInt32.le_iff_toNat_le])
    rw [plugin.run_outputs_append, plugin.run_actions_append,
      List.drop_left' (plugin.runOutputs_length before),
      List.drop_left' (plugin.runActions_length before), outputs, actions]
    exact ⟨by simp only [List.map_const'], rfl⟩

theorem muting_never_recedes_saturated :
    (Staged (Cut.actions ⟨.unlicensed, 4294967280, { timing := ⟨4294967285, 4⟩ }⟩
        ([5, 0, 2, 2, 6, 4, 6].map Cut.fullScale)) ∧
      Cut.actions ⟨.unlicensed, 4294967280, { timing := ⟨4294967285, 4⟩ }⟩
        ([5, 0, 2, 2, 6, 4, 6].map Cut.fullScale) =
          [.passed, .passed, .faded, .faded, .silenced, .silenced, .silenced]) ∧
    (Instance.runOutputs ⟨.unlicensed, 4294967280, { timing := ⟨4294967285, 4⟩ }⟩
        ([5, 0, 2, 2].map (Cut.block ∘ Cut.fullScale) ++
          [6, 4, 6].map (Cut.block ∘ Cut.fullScale))).drop 4 =
      [[List.replicate 6 .zero], [List.replicate 4 .zero], [List.replicate 6 .zero]] :=
  have run := muting_never_recedes
    ⟨.unlicensed, 4294967280, { timing := ⟨4294967285, 4⟩ }⟩ rfl
  ⟨⟨(run.1 _ (by decide)).2, by decide +kernel⟩,
    (run.2 ([5, 0, 2, 2].map (Cut.block ∘ Cut.fullScale))
      ([6, 4, 6].map (Cut.block ∘ Cut.fullScale)) (by decide) (by decide)).1⟩

end LicenseGate
