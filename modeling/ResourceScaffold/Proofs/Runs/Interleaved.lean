import Mathlib.Data.Finset.Insert
import Mathlib.Data.Fintype.Defs
import Mathlib.Data.List.Permutation
import ResourceScaffold.Proofs.Apply.Aggregator
import ResourceScaffold.Proofs.Runs.Skip

/-!
Contract: runs with the default settings that share a project and take turns in it.

Owns:
- runs that make a plan in one turn and carry it out in a later one, replacing files;
- a ledger of the routes that the aggregator has, which follows the turns of any number of runs;
- the aggregator after two runs, for every order of their turns.

Does not own: runs that fail, and the files of the layers.
-/

namespace ResourceScaffold

open FileTree

/-! ## Turns -/

/-- How far a run has got. -/
inductive Progress where
  | waiting
  | planned (plan : ScaffoldPlan)
  | applied
deriving DecidableEq

/-- A project that several parties share, and how far the run of each of them has got. -/
structure Shared (Party : Type) where
  files : FileTree
  progress : Party → Progress

section Turns

variable {Party : Type} [DecidableEq Party]

/-- A project that no run has begun in. -/
def Shared.fresh (files : FileTree) : Shared Party :=
  ⟨files, fun _ => .waiting⟩

/-- A party takes its turn with success. Apart from the files, the session is its own. -/
inductive Turn (names : Party → ResourceName) (root : Path) :
    Shared Party → Party → Shared Party → Prop
  | plan {shared : Shared Party} {party : Party} {host : Host} {before after : Session}
      {plan : ScaffoldPlan} (waiting : shared.progress party = .waiting)
      (sees : before.files = shared.files)
      (planned : Request.plan ⟨names party, .force, host⟩ root before = .ok plan after) :
      Turn names root shared party
        ⟨after.files, Function.update shared.progress party (.planned plan)⟩
  | apply {shared : Shared Party} {party : Party} {host : Host} {before after : Session}
      {plan : ScaffoldPlan} {report : ScaffoldReport}
      (ready : shared.progress party = .planned plan) (sees : before.files = shared.files)
      (applied : plan.apply host root .force before = .ok report after) :
      Turn names root shared party ⟨after.files, Function.update shared.progress party .applied⟩

/-- Turns one after the other, all of them with success. -/
inductive Turns (names : Party → ResourceName) (root : Path) :
    Shared Party → List Party → Shared Party → Prop
  | nil {shared : Shared Party} : Turns names root shared [] shared
  | cons {shared middle final : Shared Party} {party : Party} {schedule : List Party}
      (first : Turn names root shared party middle)
      (others : Turns names root middle schedule final) :
      Turns names root shared (party :: schedule) final

/-! ## The ledger -/

/-- The parties whose routes the aggregator has, the latest first, and those whose routes it will have
when the plan of a party is carried out. -/
structure Ledger (Party : Type) where
  current : List Party
  planned : Party → Option (List Party)

namespace Ledger

/-- No route was added yet. -/
def fresh : Ledger Party :=
  ⟨[], fun _ => none⟩

/-- A plan adds the route of its party to those that the aggregator has when the plan is made.
Carrying it out replaces whatever the aggregator has by then. -/
def turn (ledger : Ledger Party) (party : Party) : Ledger Party :=
  match ledger.planned party with
  | none =>
      { ledger with
        planned := Function.update ledger.planned party (some (party :: ledger.current)) }
  | some parties => { ledger with current := parties }

variable {ledger : Ledger Party} {party : Party}

theorem turn_of_waiting (entry : ledger.planned party = none) :
    ledger.turn party =
      ⟨ledger.current, Function.update ledger.planned party (some (party :: ledger.current))⟩ := by
  rw [turn, entry]

theorem turn_of_planned {parties : List Party} (entry : ledger.planned party = some parties) :
    ledger.turn party = ⟨parties, ledger.planned⟩ := by
  rw [turn, entry]

end Ledger

/-- A text after the routes of parties were added to it. -/
structure Adds (names : Party → ResourceName) (parties : List Party) (text text' : String) :
    Prop where
  anchors : HasAnchors text'
  imports : ∀ name, IsIdentifier name.camel →
    occurrences name.importLine text' =
      occurrences name.importLine text + parties.countP fun party => names party = name
  registrations : ∀ name, IsIdentifier name.camel →
    occurrences name.registrationLine text' =
      occurrences name.registrationLine text + parties.countP fun party => names party = name

/-- The plan of a party is as its entry in the ledger says, counting from a text of the aggregator. -/
inductive Tracks (names : Party → ResourceName) (text : String) (party : Party) :
    Progress → Option (List Party) → Prop
  | waiting : Tracks names text party .waiting none
  | planned {parties : List Party} {text' text'' : String} (adds : Adds names parties text text'') :
      Tracks names text party (.planned (defaultPlan (names party) text' text'')) (some parties)
  | applied {parties : List Party} : Tracks names text party .applied (some parties)

/-- The shared project is as a ledger says, counting from a text of the aggregator. -/
structure Follows (names : Party → ResourceName) (root : Path) (text : String)
    (ledger : Ledger Party) (shared : Shared Party) : Prop where
  sound : Sound root shared.files
  current : ∃ text', shared.files.readText (root.join defaultAggregator) = .ok text' ∧
    Adds names ledger.current text text'
  tracks : ∀ party, Tracks names text party (shared.progress party) (ledger.planned party)

variable {names : Party → ResourceName} {root : Path} {text : String} {ledger : Ledger Party}
  {shared shared' final : Shared Party} {party : Party} {schedule : List Party}

omit [DecidableEq Party] in
theorem Adds.cons {parties : List Party} {text' text'' : String}
    (adds : Adds names parties text text') (gains : Gains (names party) text' text'') :
    Adds names (party :: parties) text text'' := by
  have one (name : ResourceName) : (if name = names party then 1 else 0) =
      if decide (names party = name) = true then 1 else 0 := by
    by_cases same : names party = name
    · simp [same]
    · simp [same, Ne.symm same]
  refine ⟨gains.anchors, fun name identifier => ?_, fun name identifier => ?_⟩
  · rw [gains.imports name identifier, adds.imports name identifier, List.countP_cons, one,
      Nat.add_assoc]
  · rw [gains.registrations name identifier, adds.registrations name identifier, List.countP_cons,
      one, Nat.add_assoc]

namespace Tracks

variable {progress : Party → Progress} {planned : Party → Option (List Party)} {step : Progress}
  {entry : Option (List Party)}

omit [DecidableEq Party] in
theorem entry_of_waiting (tracks : Tracks names text party .waiting entry) : entry = none := by
  cases tracks
  rfl

omit [DecidableEq Party] in
theorem entry_of_planned {plan : ScaffoldPlan}
    (tracks : Tracks names text party (.planned plan) entry) :
    ∃ parties text' text'', entry = some parties ∧ plan = defaultPlan (names party) text' text'' ∧
      Adds names parties text text'' := by
  obtain - | @⟨parties, text', text'', adds⟩ | - := tracks
  exact ⟨parties, text', text'', rfl, rfl, adds⟩

theorem update (tracks : ∀ other, Tracks names text other (progress other) (planned other))
    (now : Tracks names text party step entry) (other : Party) :
    Tracks names text other (Function.update progress party step other)
      (Function.update planned party entry other) := by
  by_cases own : other = party
  · subst own
    rwa [Function.update_self, Function.update_self]
  · rw [Function.update_of_ne own, Function.update_of_ne own]
    exact tracks other

end Tracks

/-- A plan that was made comes from a text with both anchors, and adds its route to that text. -/
theorem Request.plan_gains (request : Request) {before after : Session} {plan : ScaffoldPlan}
    (identifier : IsIdentifier request.name.camel)
    (planned : request.plan root before = .ok plan after) :
    ∃ text text', before.files.readText (root.join defaultAggregator) = .ok text ∧
      HasAnchors text ∧ Gains request.name text text' ∧
      plan = defaultPlan request.name text text' ∧ after.files = before.files := by
  obtain ⟨text, text', read, applied, rfl, same⟩ := plan_eq_ok planned
  have anchors := hasAnchors_of_apply identifier applied
  obtain ⟨text'', applied', gains⟩ := exists_gains identifier anchors defaultAggregator
  obtain rfl : text' = text'' := Except.ok.inj (applied.symm.trans applied')
  exact ⟨text, text', read, anchors, gains, rfl, same⟩

theorem Turn.follows (identifiers : ∀ party, IsIdentifier (names party).camel)
    (turn : Turn names root shared party shared') (follows : Follows names root text ledger shared) :
    Follows names root text (ledger.turn party) shared' := by
  obtain ⟨sound, ⟨text', read, adds⟩, tracks⟩ := follows
  cases turn with
  | @plan host before after plan waits sees planned =>
      obtain ⟨old, new, read', -, gains, rfl, same⟩ :=
        Request.plan_gains ⟨names party, .force, host⟩ (identifiers party) planned
      rw [sees] at same read'
      obtain rfl : text' = old := Except.ok.inj (read.symm.trans read')
      rw [Ledger.turn_of_waiting (waits ▸ tracks party).entry_of_waiting, same]
      exact ⟨sound, ⟨text', read, adds⟩, Tracks.update tracks (.planned (adds.cons gains))⟩
  | @apply host before after plan report ready sees applied =>
      obtain ⟨parties, old, new, entry, rfl, adds'⟩ := (ready ▸ tracks party).entry_of_planned
      rw [← sees] at sound read
      obtain ⟨settles, -, written⟩ := ScaffoldPlan.apply_settles (by simp)
        (defaultPlan_ofSources (identifiers party) old new) sound read applied
      have named : report.aggregator.isSome = true := by
        rw [ScaffoldPlan.apply_aggregator applied, if_neg fun keeps => by cases keeps.1]
        rfl
      rw [if_pos named] at written
      have done : Tracks names text party .applied (some parties) := .applied
      have tracks' := Tracks.update tracks done
      rw [← entry, Function.update_eq_self] at tracks'
      rw [Ledger.turn_of_planned entry]
      exact ⟨settles.sound, ⟨new, written, adds'⟩, tracks'⟩

theorem Turns.follows (identifiers : ∀ party, IsIdentifier (names party).camel)
    (turns : Turns names root shared schedule final)
    (follows : Follows names root text ledger shared) :
    Follows names root text (schedule.foldl Ledger.turn ledger) final := by
  induction turns generalizing ledger with
  | nil => exact follows
  | cons first _ inductionHypothesis => exact inductionHypothesis (first.follows identifiers follows)

/-- After any turns of any runs in a project that no run had begun in, the aggregator has as many more
lines of each name as the ledger says. -/
theorem Turns.account {files : FileTree} (identifiers : ∀ party, IsIdentifier (names party).camel)
    (wellFormed : files.WellFormed) (turns : Turns names root (.fresh files) schedule final) :
    ∀ name, IsIdentifier name.camel →
      occurrences name.importLine (aggregatorText root final.files) =
          occurrences name.importLine (aggregatorText root files) +
            (schedule.foldl Ledger.turn .fresh).current.countP (fun party => names party = name) ∧
        occurrences name.registrationLine (aggregatorText root final.files) =
          occurrences name.registrationLine (aggregatorText root files) +
            (schedule.foldl Ledger.turn .fresh).current.countP fun party => names party = name := by
  intro name identifier
  cases turns with
  | nil => simp [Ledger.fresh, Shared.fresh]
  | @cons _ middle _ party schedule first others =>
      -- The first turn makes a plan, so the aggregator can be read and has both anchors.
      obtain ⟨text, read, anchors⟩ : ∃ text,
          files.readText (root.join defaultAggregator) = .ok text ∧ HasAnchors text := by
        cases first with
        | plan waiting sees planned =>
            obtain ⟨text, -, read, anchors, -⟩ :=
              Request.plan_gains ⟨names party, .force, _⟩ (identifiers party) planned
            rw [sees] at read
            exact ⟨text, read, anchors⟩
        | apply ready => cases ready
      have follows : Follows names root text .fresh (.fresh files) :=
        ⟨.of_read wellFormed read, ⟨text, read, anchors, by simp [Ledger.fresh],
          by simp [Ledger.fresh]⟩, fun _ => .waiting⟩
      obtain ⟨text', read', adds⟩ :=
        (Turns.cons first others |>.follows identifiers follows).current
      rw [aggregatorText_of_read read, aggregatorText_of_read read']
      exact ⟨adds.imports name identifier, adds.registrations name identifier⟩

end Turns

/-! ## Two runs -/

/-- One of two parties. -/
inductive Side where
  | first
  | second
deriving DecidableEq

instance : Fintype Side :=
  ⟨{.first, .second}, fun side => by cases side <;> simp⟩

/-- The parties of a ledger after two turns of each: the one whose plan was carried out last, and the
other one only if it was done before that plan was made. -/
theorem Ledger.current_of_two {schedule : List Side}
    (twice : schedule.Perm [.first, .first, .second, .second]) :
    ∃ last, schedule.getLast? = some last ∧ ∀ side,
      (schedule.foldl turn fresh).current.count side =
        if side = last ∨ schedule = [side, side, last, last] then 1 else 0 := by
  have orders : ∀ order ∈ ([.first, .first, .second, .second] : List Side).permutations',
      ∃ last, order.getLast? = some last ∧ ∀ side,
        (order.foldl turn fresh).current.count side =
          if side = last ∨ order = [side, side, last, last] then 1 else 0 := by
    decide
  exact orders schedule (List.mem_permutations'.2 twice)

/-- After two runs for different names, in any order of their turns, the aggregator has the import
line and the registration line of the run that was carried out last once more. It has those of the
other run once more if that run was done before the last one made its plan, and else no more often
than at the beginning. -/
theorem Turns.account_of_two {names : Side → ResourceName} {root : Path} {files : FileTree}
    {schedule : List Side} {final : Shared Side}
    (identifiers : ∀ side, IsIdentifier (names side).camel)
    (different : names .first ≠ names .second) (wellFormed : files.WellFormed)
    (twice : schedule.Perm [.first, .first, .second, .second])
    (turns : Turns names root (.fresh files) schedule final) :
    ∃ last, schedule.getLast? = some last ∧ ∀ side,
      occurrences (names side).importLine (aggregatorText root final.files) =
          occurrences (names side).importLine (aggregatorText root files) +
            (if side = last ∨ schedule = [side, side, last, last] then 1 else 0) ∧
        occurrences (names side).registrationLine (aggregatorText root final.files) =
          occurrences (names side).registrationLine (aggregatorText root files) +
            if side = last ∨ schedule = [side, side, last, last] then 1 else 0 := by
  obtain ⟨last, isLast, counts⟩ := Ledger.current_of_two twice
  have injective : ∀ side other, names other = names side ↔ other = side := by
    intro side other
    cases side <;> cases other <;> simp [different, Ne.symm different]
  refine ⟨last, isLast, fun side => ?_⟩
  obtain ⟨imports, registrations⟩ :=
    turns.account identifiers wellFormed (names side) (identifiers side)
  have added : (schedule.foldl Ledger.turn .fresh).current.countP
      (fun other => names other = names side) =
        if side = last ∨ schedule = [side, side, last, last] then 1 else 0 := by
    rw [← counts side, List.count]
    exact List.countP_congr fun other _ => by simp [injective]
  rw [added] at imports registrations
  exact ⟨imports, registrations⟩

/-- One run for orders and one for invoices. -/
def tradeNames : Side → ResourceName
  | .first => orderName
  | .second => invoiceName

theorem tradeNames_isIdentifier (side : Side) : IsIdentifier (tradeNames side).camel := by
  cases side
  · exact ⟨by decide, by decide⟩
  · exact ⟨by decide, by decide⟩

theorem tradeNames_ne : tradeNames .first ≠ tradeNames .second := by
  decide

def invoicedAggregator : String :=
  "import \x7b invoiceRoutes \x7d from './invoice.routes';\n\nconst appRoutes = Router();\n" ++
    "appRoutes.use(invoiceRoutes);\n\nexport default appRoutes;\n"

theorem invoiceName_spliced :
    (Generator.spliceOf invoiceName {}).apply routelessAggregator defaultAggregator =
      .ok invoicedAggregator := by
  have applied : ((Generator.spliceOf invoiceName {}).apply routelessAggregator
      defaultAggregator).toOption = some invoicedAggregator := by
    decide +kernel
  cases spliced : (Generator.spliceOf invoiceName {}).apply routelessAggregator
      defaultAggregator with
  | ok text =>
      rw [spliced] at applied
      cases applied
      rfl
  | error failure =>
      rw [spliced] at applied
      cases applied

/-- The run for orders makes its plan first and carries it out last. -/
theorem exists_overlapping_turns :
    ∃ final, Turns tradeNames ⟨"."⟩ (.fresh routelessProject.files)
      [.first, .second, .second, .first] final := by
  have succeeds : ((defaultPlan invoiceName routelessAggregator invoicedAggregator).apply calmHost
      ⟨"."⟩ .force >>= fun _ => (defaultPlan orderName routelessAggregator routedAggregator).apply
        calmHost ⟨"."⟩ .force).succeeds routelessProject = true := by
    decide +kernel
  obtain ⟨_, _, both⟩ := Action.succeeds_iff.1 succeeds
  obtain ⟨_, middle, applied, applied'⟩ := Action.bind_eq_ok_iff.1 both
  have planned : Request.plan ⟨orderName, .force, calmHost⟩ ⟨"."⟩ routelessProject = .ok _ _ :=
    Request.plan_of_splice routelessProject_read orderName_spliced
  have planned' : Request.plan ⟨invoiceName, .force, calmHost⟩ ⟨"."⟩ routelessProject = .ok _ _ :=
    Request.plan_of_splice routelessProject_read invoiceName_spliced
  exact ⟨_, .cons (.plan rfl rfl planned) (.cons (.plan rfl rfl planned')
    (.cons (.apply rfl rfl applied) (.cons (.apply rfl rfl applied') .nil)))⟩

/-- The route for orders was added to the aggregator in the end, and that for invoices was not. -/
theorem Turns.account_of_two_trades :
    ∃ final, Turns tradeNames ⟨"."⟩ (.fresh routelessProject.files)
        [.first, .second, .second, .first] final ∧
      occurrences orderName.importLine (aggregatorText ⟨"."⟩ final.files) =
          occurrences orderName.importLine (aggregatorText ⟨"."⟩ routelessProject.files) + 1 ∧
        occurrences invoiceName.importLine (aggregatorText ⟨"."⟩ final.files) =
          occurrences invoiceName.importLine (aggregatorText ⟨"."⟩ routelessProject.files) := by
  obtain ⟨final, turns⟩ := exists_overlapping_turns
  obtain ⟨last, isLast, counts⟩ := Turns.account_of_two tradeNames_isIdentifier tradeNames_ne
    routelessProject_wellFormed (by decide) turns
  cases isLast
  refine ⟨final, turns, ?_, ?_⟩
  · simpa [tradeNames] using (counts .first).1
  · simpa [tradeNames] using (counts .second).1

/-- Both runs succeed, but the lines that the run for invoices added are gone in the end. -/
theorem Turns.discard_invoices :
    ∃ schedule final, schedule.Perm [.first, .first, .second, .second] ∧
      Turns tradeNames ⟨"."⟩ (.fresh routelessProject.files) schedule final ∧
      occurrences invoiceName.importLine (aggregatorText ⟨"."⟩ final.files) = 0 ∧
      occurrences invoiceName.registrationLine (aggregatorText ⟨"."⟩ final.files) = 0 := by
  obtain ⟨final, turns⟩ := exists_overlapping_turns
  refine ⟨_, final, by decide, turns, ?_⟩
  obtain ⟨imports, registrations⟩ := turns.account tradeNames_isIdentifier
    routelessProject_wellFormed invoiceName (tradeNames_isIdentifier .second)
  have dotless : '.' ∉ routelessAggregator.toList := by
    decide +kernel
  have absent {line : String} (dotted : '.' ∈ line.toList) :
      occurrences line routelessAggregator = 0 :=
    Text.count_eq_zero_iff.2 fun part => dotless (part.subset dotted)
  have others : ([Side.first, .second, .second, .first].foldl Ledger.turn .fresh).current.countP
      (fun side => tradeNames side = invoiceName) = 0 := by
    decide +kernel
  rw [aggregatorText_of_read routelessProject_read, others] at imports registrations
  rw [absent (by decide +kernel)] at imports registrations
  exact ⟨imports, registrations⟩

end ResourceScaffold
