import DeployService.Proofs.TableLayout
import DeployService.Proofs.Traffic
import Mathlib

/-!
# What commands ask a service

A command prints lines and makes calls of a service, and nothing else happens to the service in the
meantime: its state after the command is the one to which the calls have led (`Leads`). So what a
command does with a service is told by the calls that it makes and what became of each of them.

`Call.Consults` says this of a command, together with a property of its calls and its result. It is
closed under one command after another (`Consults.bind`): the second one asks nothing if the first
one fails. Most commands are a call and something that is done with its answer (`Asking`), and an
error of the call is then the error of the command, in one more context.

What is done with an answer may be to print it as a table, and a table that is too wide to be printed
ends the program although every call has succeeded (`Conclusion.panic`).
-/

namespace DeployService

variable {F : Type → Type}

/-- A call of a service, and what became of it. -/
structure Asked (F : Type → Type) where
  Value : Type
  call : F Value
  result : Except Error Value

/-- The error of a call, if it has failed. -/
def Asked.error? (a : Asked F) : Option Error := RetryPolicy.errorOf? a.result

/-- The state `s'` is the one after the calls `t` from the state `s`. -/
inductive Leads {σ : Type} (service : Service σ F) : σ → List (Asked F) → σ → Prop where
  | nil (s : σ) : Leads @service s [] s
  | cons {α : Type} (call : F α) {s s' : σ} {t : List (Asked F)}
    (h : Leads @service (service call s).2 t s') :
    Leads @service s (⟨α, call, (service call s).1⟩ :: t) s'

variable {σ α β : Type} {service : Service σ F}

theorem Leads.append {s s' s'' : σ} {t t' : List (Asked F)} (h : Leads service s t s')
    (h' : Leads service s' t' s'') : Leads service s (t ++ t') s'' := by
  induction h with
  | nil => exact h'
  | cons call _ ih => exact .cons call (ih h')

/-- What every call of a service leaves as it is. -/
theorem Leads.unchanged {γ : Type} {view : σ → γ}
    (hs : ∀ {α : Type} (call : F α) (s : σ), view (service call s).2 = view s) {s s' : σ}
    {t : List (Asked F)} (h : Leads service s t s') : view s' = view s := by
  induction h with
  | nil => rfl
  | cons call _ ih => exact ih.trans (hs call _)

/-- The calls are those that the service has seen: one that keeps a record of its calls has recorded
these and no others. -/
theorem Leads.recorded {γ : Type} {record : σ → List γ} {entry : Asked F → γ}
    (hs : ∀ {α : Type} (call : F α) (s : σ),
      record (service call s).2 = record s ++ [entry ⟨α, call, (service call s).1⟩])
    {s s' : σ} {t : List (Asked F)} (h : Leads service s t s') :
    record s' = record s ++ t.map entry := by
  induction h with
  | nil => simp
  | cons call _ ih => rw [ih, hs call, List.map_cons, List.append_assoc, List.singleton_append]

namespace Call

/-- The command only makes calls of the service, and `P` relates them to its result. -/
def Consults (service : Service σ F) (x : Call (Console σ) α)
    (P : List (Asked F) → Except Error α → Prop) : Prop :=
  x.Traces (fun c t c' => Leads service c.state t c'.state) P

variable {x : Call (Console σ) α}

theorem Consults.mono {P Q : List (Asked F) → Except Error α → Prop} (h : x.Consults service P)
    (hPQ : ∀ t r, P t r → Q t r) : x.Consults service Q :=
  Traces.mono h hPQ

theorem Consults.bind {f : α → Call (Console σ) β} {P : List (Asked F) → Except Error α → Prop}
    {Q : α → List (Asked F) → Except Error β → Prop} (hx : x.Consults service P)
    (hf : ∀ a, (f a).Consults service (Q a)) :
    (x >>= f).Consults service fun t r =>
      (∃ e, P t (.error e) ∧ r = .error e) ∨
        ∃ t₁ t₂ a, t = t₁ ++ t₂ ∧ P t₁ (.ok a) ∧ Q a t₂ r :=
  Traces.bind Leads.append hx hf

/-- A command that leaves the service alone asks nothing. -/
theorem Consults.of_silent {P : List (Asked F) → Except Error α → Prop}
    (h : ∀ c, (x c).2.state = c.state ∧ P [] (x c).1) : x.Consults service P := by
  intro c
  obtain ⟨hs, hp⟩ := h c
  refine ⟨[], ?_, hp⟩
  show Leads service c.state [] (x c).2.state
  rw [hs]
  exact .nil _

/-- A command that has first something else to do, which asks nothing and does not fail. -/
theorem Consults.after {y : Call (Console σ) β} {b : β} {f : β → Call (Console σ) α}
    {P : List (Asked F) → Except Error α → Prop}
    (hy : ∀ c, (y c).1 = .ok b ∧ (y c).2.state = c.state) (h : (f b).Consults service P) :
    (y >>= f).Consults service P := by
  intro c
  obtain ⟨hr, hs⟩ := hy c
  obtain ⟨t, hl, hp⟩ := h (y c).2
  have hl : Leads service (y c).2.state t (f b (y c).2).2.state := hl
  rw [hs] at hl
  rw [bind_ok (Prod.ext hr rfl : y c = (.ok b, (y c).2))]
  exact ⟨t, hl, hp⟩

end Call

/-! ## A call and what is done with its answer -/

/-- The call is made. If it fails, its error is passed on as `f` says; else the rest has its
answer. -/
inductive Asking (call : F α) (f : Error → Error)
    (Q : α → List (Asked F) → Except Error β → Prop) :
    List (Asked F) → Except Error β → Prop where
  | failed (e : Error) : Asking call f Q [⟨α, call, .error e⟩] (.error (f e))
  | answered (a : α) {t : List (Asked F)} {r : Except Error β} (h : Q a t r) :
    Asking call f Q (⟨α, call, .ok a⟩ :: t) r

theorem Call.Consults.asking (call : F α) (f : Error → Error) {k : α → Call (Console σ) β}
    {Q : α → List (Asked F) → Except Error β → Prop} (hk : ∀ a, (k a).Consults service (Q a)) :
    ((Console.ask (service call)).mapError f >>= k).Consults service (Asking call f Q) := by
  have hask : ((Console.ask (service call)).mapError f).Consults service fun t r =>
      ∃ r', t = [⟨α, call, r'⟩] ∧ r = r'.mapError f := by
    intro c
    rw [Call.mapError_eq]
    exact ⟨_, .cons call (.nil _), _, rfl, rfl⟩
  refine (hask.bind hk).mono ?_
  rintro t r (⟨_, ⟨e | _, rfl, he⟩, rfl⟩ | ⟨_, _, a, rfl, ⟨_ | _, rfl, ha⟩, hQ⟩)
  · cases he
    exact .failed e
  · cases he
  · cases ha
  · cases ha
    exact .answered a hQ

/-- Nothing was asked, and a table was printed unless it is too wide. -/
def Tabulated (table : List (List String)) (t : List (Asked F)) (r : Except Error Unit) : Prop :=
  t = [] ∧ r = if Table.Fits table then .ok () else .error Table.widthOutOfRange

theorem Table.print_tabulated {header : List String} {rows : List (List String)}
    (h : ∀ row ∈ rows, row.length = header.length) :
    (Table.print header rows).Consults service (Tabulated (header :: rows)) := by
  refine .of_silent fun c => ?_
  rw [Table.print_eq h]
  unfold Tabulated
  by_cases hfits : Table.Fits (header :: rows)
  · rw [if_pos hfits, if_pos hfits]
    exact ⟨rfl, rfl, rfl⟩
  · rw [if_neg hfits, if_neg hfits]
    exact ⟨rfl, rfl, rfl⟩

/-- Nothing was asked, and nothing went wrong. -/
def Done (t : List (Asked F)) (r : Except Error Unit) : Prop := t = [] ∧ r = .ok ()

theorem Console.say_done (line : String) : (Console.say line).Consults service Done :=
  .of_silent fun _ => ⟨rfl, rfl, rfl⟩

theorem Console.sayAll_done (lines : List String) : (Console.sayAll lines).Consults service Done :=
  .of_silent fun _ => ⟨rfl, rfl, rfl⟩

/-- A command that has something else to do in the end, which asks nothing and does not fail. -/
theorem Call.Consults.before {x : Call (Console σ) Unit} {f : Unit → Call (Console σ) Unit}
    {P : List (Asked F) → Except Error Unit → Prop} (h : x.Consults service P)
    (hf : ∀ a, (f a).Consults service Done) : (x >>= f).Consults service P := by
  refine (h.bind hf).mono ?_
  rintro t r (⟨e, hp, rfl⟩ | ⟨t₁, _, ⟨⟩, rfl, hp, rfl, rfl⟩)
  · exact hp
  · rwa [List.append_nil]

/-! ## How commands end -/

/-- The error in one more context. What it comes from is the same. -/
def Error.InContext (e e' : Error) : Prop :=
  ∃ context, e' = { contexts := context :: e.contexts, cause := e.cause }

theorem Error.inContext_within (context : String) (e : Error) : e.InContext (e.within context) :=
  ⟨context, rfl⟩

/-- How a command ends that has made the calls `t`. `passes` is what it checks by itself, `wide` says
that it has a table to print that is too wide, and `reported` relates an error of a call to what is
said about it. -/
structure Conclusion (passes wide : Prop) (reported : Error → Error → Prop) (t : List (Asked F))
    (r : Except Error Unit) : Prop where
  /-- It succeeds exactly if all of the calls have succeeded, it has nothing to object, and what it
  has to print can be printed. -/
  ok_iff : r = .ok () ↔ (∀ a ∈ t, a.error? = none) ∧ passes ∧ ¬wide
  /-- A table that is too wide ends the program. -/
  panic : (∀ a ∈ t, a.error? = none) → passes → wide → r = .error Table.widthOutOfRange
  /-- A call that has failed is the last one. -/
  last : ∀ before a after e, t = before ++ a :: after → a.error? = some e → after = []
  /-- The error of a call is reported. -/
  error : ∀ a ∈ t, ∀ e, a.error? = some e → ∃ e', r = .error e' ∧ reported e e'

namespace Conclusion

variable {passes wide : Prop} {reported : Error → Error → Prop} {t : List (Asked F)}
  {r : Except Error Unit}

theorem of_nothing (h : r = .ok () ↔ passes ∧ ¬wide)
    (hw : passes → wide → r = .error Table.widthOutOfRange) :
    Conclusion passes wide reported ([] : List (Asked F)) r where
  ok_iff := by simpa using h
  panic _ := hw
  last before a after e ht := by simp at ht
  error a ha := by simp at ha

theorem of_tabulated {table : List (List String)} (h : Tabulated table t r) :
    Conclusion True (¬Table.Fits table) reported t r := by
  obtain ⟨rfl, rfl⟩ := h
  refine .of_nothing ?_ fun _ hw => if_neg hw
  by_cases hfits : Table.Fits table <;> simp [hfits]

theorem of_failed (passes wide : Prop) (call : F α) {e e' : Error} (h : reported e e') :
    Conclusion passes wide reported [(⟨α, call, .error e⟩ : Asked F)] (.error e') where
  ok_iff := by simp [Asked.error?, RetryPolicy.errorOf?]
  panic hall := by simp [Asked.error?, RetryPolicy.errorOf?] at hall
  last before b after _ ht _ := by
    have hlength := congrArg List.length ht
    simp only [List.length_append, List.length_cons, List.length_nil] at hlength
    exact List.length_eq_zero_iff.mp (by omega)
  error a ha e₁ he₁ := by
    obtain rfl := List.mem_singleton.mp ha
    obtain rfl : e = e₁ := by simpa [Asked.error?, RetryPolicy.errorOf?] using he₁
    exact ⟨e', rfl, h⟩

/-- A call that succeeds before changes nothing. -/
theorem cons (call : F α) (a : α) (h : Conclusion passes wide reported t r) :
    Conclusion passes wide reported (⟨α, call, .ok a⟩ :: t) r where
  ok_iff := by simpa [Asked.error?, RetryPolicy.errorOf?] using h.ok_iff
  panic hall := h.panic fun b hb => hall b (List.mem_cons_of_mem _ hb)
  last before b after e ht he := by
    cases before with
    | nil =>
      obtain ⟨rfl, -⟩ := List.cons.inj ht
      cases he
    | cons _ before => exact h.last before b after e (List.cons.inj ht).2 he
  error b hb e he := by
    rcases List.mem_cons.mp hb with rfl | hb
    · cases he
    · exact h.error b hb e he

end Conclusion

/-- The call is the only one. -/
def Once (call : F α) (t : List (Asked F)) : Prop := ∃ r, t = [⟨α, call, r⟩]

/-- A single call, whose error is put in a context. -/
theorem Call.Consults.once (call : F α) (context : String) {k : α → Call (Console σ) Unit}
    (hk : ∀ a, (k a).Consults service Done) :
    ((Console.ask (service call)).within context >>= k).Consults service fun t r =>
      Once call t ∧ Conclusion True False Error.InContext t r := by
  refine (Consults.asking call (Error.within context) hk).mono ?_
  intro t r h
  cases h with
  | failed e => exact ⟨⟨_, rfl⟩, .of_failed True False call (e.inContext_within context)⟩
  | answered a h =>
    obtain ⟨rfl, rfl⟩ := h
    exact ⟨⟨_, rfl⟩, .cons call a (.of_nothing (by simp) (by simp))⟩

/-- The answer of the call is a table that is too wide. -/
def TooWide (table : α → List (List String)) (call : F α) (t : List (Asked F)) : Prop :=
  ∃ a, t = [⟨α, call, .ok a⟩] ∧ ¬Table.Fits (table a)

theorem tooWide_answered (table : α → List (List String)) (call : F α) (a : α) :
    TooWide table call [⟨α, call, .ok a⟩] ↔ ¬Table.Fits (table a) := by
  constructor
  · rintro ⟨b, h, hb⟩
    cases h
    exact hb
  · intro ha
    exact ⟨a, rfl, ha⟩

/-- A single call whose answer is printed as a table. -/
theorem Call.Consults.once_tabulated (call : F α) (context : String)
    {k : α → Call (Console σ) Unit} {table : α → List (List String)}
    (hk : ∀ a, (k a).Consults service (Tabulated (table a))) :
    ((Console.ask (service call)).within context >>= k).Consults service fun t r =>
      Once call t ∧ Conclusion True (TooWide table call t) Error.InContext t r := by
  refine (Consults.asking call (Error.within context) hk).mono ?_
  intro t r h
  cases h with
  | failed e => exact ⟨⟨_, rfl⟩, .of_failed True _ call (e.inContext_within context)⟩
  | answered a h =>
    obtain ⟨rfl, hr⟩ := h
    refine ⟨⟨_, rfl⟩, ?_⟩
    rw [tooWide_answered]
    exact .cons call a (.of_tabulated ⟨rfl, hr⟩)

namespace Command

open DeployService.Payload

/-! ## Commands with one call -/

theorem purge_once (service : Service σ RestCall) (org space : String) :
    (purge service org space).Consults service fun t r =>
      Once (.purgeConfiguration org space) t ∧ Conclusion True False Error.InContext t r :=
  .after (fun _ => ⟨rfl, rfl⟩) (.once _ _ fun _ => Console.say_done _)

/-- The table of the applications. -/
def mtaTable (found : List Mta) : List (List String) := mtaHeader :: found.map mtaRow

/-- The table of the modules of an application. -/
def moduleTable (mta : Mta) : List (List String) := moduleHeader :: mta.modules.map moduleRow

/-- The table of the operations. -/
def operationTable (found : List Operation) : List (List String) :=
  operationHeader :: found.map operationRow

/-- In place of a table without rows there is a line that says so. -/
theorem tabulated_or_none {F : Type → Type} {service : Service σ F} {α : Type} (found : List α)
    {header : List String} {row : α → List String} (hheader : Table.Fits [header])
    (hrow : ∀ a, (row a).length = header.length) (none : String) :
    (if found.isEmpty then Console.say none else Table.print header (found.map row)).Consults
      service (Tabulated (header :: found.map row)) := by
  split
  · next h =>
    obtain rfl := List.isEmpty_iff.mp h
    refine (Console.say_done none).mono ?_
    rintro t r ⟨rfl, rfl⟩
    exact ⟨rfl, (if_pos hheader).symm⟩
  · exact Table.print_tabulated (List.forall_mem_map.mpr fun a _ => hrow a)

theorem mtas_once (service : Service σ LookupCall) :
    (mtas service).Consults service fun t r =>
      Once (.mtasHere none none) t ∧
        Conclusion True (TooWide mtaTable (.mtasHere none none) t) Error.InContext t r := by
  have hheader : Table.Fits [mtaHeader] := by decide +kernel
  have hrow : ∀ a, (mtaRow a).length = mtaHeader.length := fun _ => rfl
  refine .after (fun _ => ⟨rfl, rfl⟩) (.once_tabulated _ _ fun found => ?_)
  exact .after (fun _ => ⟨rfl, rfl⟩) (tabulated_or_none found hheader hrow _)

theorem operations_once (service : Service σ OperationsCall) (mta : Option String)
    (last : Option Nat) (all : Bool) :
    (operations service mta last all).Consults service fun t r =>
      Once (.operations mta (listingFilter last all).1 (listingFilter last all).2) t ∧
        Conclusion True (TooWide operationTable
          (.operations mta (listingFilter last all).1 (listingFilter last all).2) t)
          Error.InContext t r := by
  have hheader : Table.Fits [operationHeader] := by decide +kernel
  have hrow : ∀ a, (operationRow a).length = operationHeader.length := fun _ => rfl
  refine .after (fun _ => ⟨rfl, rfl⟩) (.once_tabulated _ _ fun found => ?_)
  exact .after (fun _ => ⟨rfl, rfl⟩) (tabulated_or_none found hheader hrow _)

theorem info_once (service : Service σ OperationsCall) :
    (info service).Consults service fun t r =>
      Once .info t ∧ Conclusion True False Error.InContext t r :=
  .once _ _ fun _ => Console.say_done _

/-! ## Showing one application -/

/-- The service says that there is no such thing, whatever the contexts. -/
def SaysNotFound (e : Error) : Prop :=
  ∃ status description, e.cause = .client 404 status description

/-- What is said about an error of the call for one application. -/
structure MtaReport (id : String) (e e' : Error) : Prop where
  missing : SaysNotFound e → e' = .plain ("Multi-target app " ++ id ++ " not found")
  other : ¬ SaysNotFound e → e.InContext e'

theorem mtaReport_mtaError (id : String) (e : Error) : MtaReport id e (mtaError id e) := by
  unfold mtaError
  split
  · next status description h =>
    exact ⟨fun _ => rfl, fun hother => absurd ⟨status, description, h⟩ hother⟩
  · next hother =>
    refine ⟨?_, fun _ => e.inContext_within _⟩
    rintro ⟨status, description, h⟩
    exact absurd h (hother status description)

theorem printMta_tabulated {F : Type → Type} {service : Service σ F} (mta : Mta) :
    (printMta mta).Consults service (Tabulated (moduleTable mta)) := by
  refine .after (fun _ => ⟨rfl, rfl⟩) ?_
  have htable : (Table.print (σ := σ) moduleHeader (mta.modules.map moduleRow)).Consults service
      (Tabulated (moduleTable mta)) :=
    Table.print_tabulated (List.forall_mem_map.mpr fun _ _ => rfl)
  exact htable.before fun _ => Console.sayAll_done _

/-- Once the applications of the given id are known. -/
theorem only_concludes {F : Type → Type} {service : Service σ F} (id : String)
    (found : List Mta) :
    (Call.ofExcept (theOnly id found) >>= printMta).Consults service fun t r =>
      t = [] ∧ r = match theOnly id found with
        | .ok only =>
          if Table.Fits (moduleTable only) then .ok () else .error Table.widthOutOfRange
        | .error e => .error e := by
  cases h : theOnly id found with
  | error e => exact .of_silent fun c => ⟨rfl, rfl, rfl⟩
  | ok only => exact .after (fun _ => ⟨rfl, rfl⟩) (printMta_tabulated only)

theorem mta_concludes (service : Service σ LookupCall) (id : String)
    (namespaceName : Option String) :
    (mta service id namespaceName).Consults service fun t r =>
      ∃ answer, t = [⟨List Mta, .mtasHere (some id) namespaceName, answer⟩] ∧
        Conclusion (∃ only, answer = .ok [only])
          (∃ only, answer = .ok [only] ∧ ¬Table.Fits (moduleTable only)) (MtaReport id) t r ∧
        (answer = .ok [] → r = .error (.plain ("Multi-target app " ++ id ++ " not found"))) := by
  refine Call.Consults.mono (.after (fun _ => ⟨rfl, rfl⟩) (.asking _ _ (only_concludes id))) ?_
  intro t r h
  cases h with
  | failed e =>
    exact ⟨_, rfl, .of_failed _ _ _ (mtaReport_mtaError id e), by simp⟩
  | answered found h =>
    obtain ⟨rfl, hr⟩ := h
    refine ⟨_, rfl, .cons _ found ?_, ?_⟩
    · cases found with
      | nil => exact .of_nothing (by simp [hr, theOnly]) (by simp)
      | cons m rest =>
        cases rest with
        | nil =>
          have hend : Conclusion (F := LookupCall) True (¬Table.Fits (moduleTable m))
              (MtaReport id) [] r := .of_tabulated ⟨rfl, hr⟩
          simpa using hend
        | cons => exact .of_nothing (by simp [hr, theOnly]) (by simp)
    · rintro h
      cases h
      exact hr

/-! ## Printing logs -/

/-- The contents of logs are asked for one by one, until one of them is not to be had. -/
inductive ContentsAsked (operation : String) :
    List String → List (Asked OperationsCall) → Prop where
  | nil : ContentsAsked operation [] []
  | failed (log : String) (logs : List String) (e : Error) :
    ContentsAsked operation (log :: logs) [⟨String, .logContent operation log, .error e⟩]
  | cons (log content : String) {logs : List String} {t : List (Asked OperationsCall)}
    (h : ContentsAsked operation logs t) :
    ContentsAsked operation (log :: logs) (⟨String, .logContent operation log, .ok content⟩ :: t)

/-- Unless a log is given, the logs of the operation are asked for first. -/
inductive LogsAsked (operation : String) : Option String → List (Asked OperationsCall) → Prop where
  | one (log : String) {t : List (Asked OperationsCall)} (h : ContentsAsked operation [log] t) :
    LogsAsked operation (some log) t
  | unlisted (e : Error) : LogsAsked operation none [⟨List LogFile, .logs operation, .error e⟩]
  | all (found : List LogFile) {t : List (Asked OperationsCall)}
    (h : ContentsAsked operation (found.map LogFile.id) t) :
    LogsAsked operation none (⟨List LogFile, .logs operation, .ok found⟩ :: t)

theorem printLogs_concludes (service : Service σ OperationsCall) (operation : String)
    (logs : List String) :
    (printLogs service operation logs).Consults service fun t r =>
      ContentsAsked operation logs t ∧ Conclusion True False Error.InContext t r := by
  induction logs with
  | nil =>
    exact .of_silent fun _ =>
      ⟨rfl, .nil, .of_nothing (by simp [printLogs, pure, Call.pure]) (by simp)⟩
  | cons log logs ih =>
    have hlog : (printLog service operation log).Consults service
        (Asking (.logContent operation log)
          (Error.within ("Could not get content of log " ++ log)) fun _ => Done) :=
      .asking _ _ fun _ => Console.sayAll_done _
    refine (hlog.bind fun _ => ih).mono ?_
    rintro t r (⟨_, hasked, rfl⟩ | ⟨_, t, _, rfl, hasked, hcontents, hend⟩)
    · cases hasked with
      | failed e => exact ⟨.failed log logs e, .of_failed _ _ _ (e.inContext_within _)⟩
      | answered content h => cases h.2
    · cases hasked with
      | answered content h =>
        obtain ⟨rfl, -⟩ := h
        exact ⟨.cons log content hcontents, .cons _ content hend⟩

theorem logs_concludes (service : Service σ OperationsCall) (operation : String)
    (log : Option String) :
    (logs service operation log).Consults service fun t r =>
      LogsAsked operation log t ∧ Conclusion True False Error.InContext t r := by
  have hprint : ∀ ids : List String,
      (printLogs service operation ids >>= fun _ =>
        if ids.isEmpty then Console.say "No logs found" else pure ()).Consults service
        fun t r => ContentsAsked operation ids t ∧ Conclusion True False Error.InContext t r := by
    intro ids
    refine (printLogs_concludes service operation ids).before fun _ => ?_
    split
    · exact Console.say_done _
    · exact .of_silent fun _ => ⟨rfl, rfl, rfl⟩
  refine .after (fun _ => ⟨rfl, rfl⟩) ?_
  cases log with
  | some id =>
    refine .mono (.after (fun _ => ⟨rfl, rfl⟩) (hprint [id])) ?_
    exact fun t r ⟨hasked, hend⟩ => ⟨.one id hasked, hend⟩
  | none =>
    refine .mono (.asking _ _ fun found => .after (fun _ => ⟨rfl, rfl⟩) (hprint _)) ?_
    intro t r h
    cases h with
    | failed e => exact ⟨.unlisted e, .of_failed _ _ _ (e.inContext_within _)⟩
    | answered found h => exact ⟨.all found h.1, .cons _ found h.2⟩

/-! ## Acting on an operation -/

/-- The action must be known, and then the operation must offer it. -/
inductive ActAsked (operation action : String) : List (Asked OperationsCall) → Prop where
  | unknown (h : action ∉ knownActions) : ActAsked operation action []
  | unlisted (h : action ∈ knownActions) (e : Error) :
    ActAsked operation action [⟨List String, .actions operation, .error e⟩]
  | impossible (h : action ∈ knownActions) {offered : List String} (ho : action ∉ offered) :
    ActAsked operation action [⟨List String, .actions operation, .ok offered⟩]
  | tried (h : action ∈ knownActions) {offered : List String} (ho : action ∈ offered)
    (r : Except Error (Option String)) :
    ActAsked operation action [⟨List String, .actions operation, .ok offered⟩,
      ⟨Option String, .executeAction operation action, r⟩]

/-- The action is known, and the service has listed it as possible. -/
def Offered (operation action : String) (t : List (Asked OperationsCall)) : Prop :=
  action ∈ knownActions ∧ ∃ offered rest, action ∈ offered ∧
    t = ⟨List String, .actions operation, .ok offered⟩ :: rest

/-- Once the operation has listed its actions. -/
theorem act_listed (service : Service σ OperationsCall) (operation action : String)
    (offered : List String) :
    (if !offered.contains action then Call.fail (impossibleAction operation action)
      else do
        Console.say ("Executing action " ++ Text.quoted action ++ " on operation " ++ operation ++
          "...")
        let _ ← (Console.ask (service (.executeAction operation action))).within
          ("Could not execute action " ++ Text.quoted action ++ " on operation " ++ operation)
        Console.say "OK").Consults service fun t r =>
      (action ∉ offered ∧ t = [] ∧ ∃ e, r = .error e) ∨
        (action ∈ offered ∧ Once (.executeAction operation action) t ∧
          Conclusion True False Error.InContext t r) := by
  split
  · next h =>
    have hno : action ∉ offered := by simpa using h
    exact .of_silent fun _ => ⟨rfl, .inl ⟨hno, rfl, _, rfl⟩⟩
  · next h =>
    have hoffered : action ∈ offered := by simpa using h
    refine .mono (.after (fun _ => ⟨rfl, rfl⟩) (.once _ _ fun _ => Console.say_done "OK")) ?_
    exact fun t r h => .inr ⟨hoffered, h⟩

theorem act_concludes (service : Service σ OperationsCall) (operation action : String) :
    (act service operation action).Consults service fun t r =>
      ActAsked operation action t ∧
        Conclusion (Offered operation action t) False Error.InContext t r := by
  unfold act
  split
  · next h =>
    have hunknown : action ∉ knownActions := by simpa using h
    exact .of_silent fun _ =>
      ⟨rfl, .unknown hunknown, .of_nothing (by simp [Call.fail, Offered]) (by simp)⟩
  · next h =>
    have hknown : action ∈ knownActions := by simpa using h
    refine (Call.Consults.asking _ _ (act_listed service operation action)).mono ?_
    intro t r h
    cases h with
    | failed e => exact ⟨.unlisted hknown e, .of_failed _ _ _ (e.inContext_within _)⟩
    | answered offered h =>
      rcases h with ⟨hno, rfl, e, rfl⟩ | ⟨hoffered, ⟨r', rfl⟩, hend⟩
      · refine ⟨.impossible hknown hno, .cons _ offered (.of_nothing ?_ (by simp))⟩
        simp [Offered, hno]
      · have hpasses : Offered operation action
            [⟨List String, .actions operation, .ok offered⟩,
              ⟨Option String, .executeAction operation action, r'⟩] :=
          ⟨hknown, offered, _, hoffered, rfl⟩
        refine ⟨.tried hknown hoffered r', .cons _ offered ?_⟩
        simpa only [hpasses] using hend

/-! ## All commands -/

/-- No command loses an error, whatever is behind the services that it uses. But a table that is too
wide ends the program. -/
structure ErrorsReported (configuration : Service σ RestCall) (lookup : Service σ LookupCall)
    (deploy : Service σ OperationsCall) : Prop where
  purge : ∀ org space, (purge configuration org space).Consults configuration fun t r =>
    Once (.purgeConfiguration org space) t ∧ Conclusion True False Error.InContext t r
  mtas : (mtas lookup).Consults lookup fun t r =>
    Once (.mtasHere none none) t ∧
      Conclusion True (TooWide mtaTable (.mtasHere none none) t) Error.InContext t r
  mta : ∀ id namespaceName, (mta lookup id namespaceName).Consults lookup fun t r =>
    ∃ answer, t = [⟨List Mta, .mtasHere (some id) namespaceName, answer⟩] ∧
      Conclusion (∃ only, answer = .ok [only])
        (∃ only, answer = .ok [only] ∧ ¬Table.Fits (moduleTable only)) (MtaReport id) t r ∧
      (answer = .ok [] → r = .error (.plain ("Multi-target app " ++ id ++ " not found")))
  operations : ∀ mta last all, (operations deploy mta last all).Consults deploy fun t r =>
    Once (.operations mta (listingFilter last all).1 (listingFilter last all).2) t ∧
      Conclusion True (TooWide operationTable
        (.operations mta (listingFilter last all).1 (listingFilter last all).2) t)
        Error.InContext t r
  logs : ∀ operation log, (logs deploy operation log).Consults deploy fun t r =>
    LogsAsked operation log t ∧ Conclusion True False Error.InContext t r
  act : ∀ operation action, (act deploy operation action).Consults deploy fun t r =>
    ActAsked operation action t ∧ Conclusion (Offered operation action t) False Error.InContext t r
  info : (info deploy).Consults deploy fun t r =>
    Once .info t ∧ Conclusion True False Error.InContext t r

/-- **No command loses an error.** For all arguments, and whatever the calls end with. Where all calls
have succeeded and a table is too wide for being printed, the program cannot go on. -/
theorem errors_reported (configuration : Service σ RestCall) (lookup : Service σ LookupCall)
    (deploy : Service σ OperationsCall) : ErrorsReported configuration lookup deploy where
  purge := purge_once configuration
  mtas := mtas_once lookup
  mta := mta_concludes lookup
  operations := operations_once deploy
  logs := logs_concludes deploy
  act := act_concludes deploy
  info := info_once deploy

/-- An application with a name of 65536 characters is listed, and the call for the list succeeds; but
the command does not. -/
theorem oversized_listing_fails :
    let found : Mta := { (Payload.empty : Mta) with
      metadata := { (Payload.empty : MtaMetadata) with id := Table.letters (Table.maxWidth + 1) } }
    let lookup : Service Unit LookupCall := fun call s =>
      match call with
      | .mtas _ _ _ => (.ok [found], s)
      | .mtasHere _ _ => (.ok [found], s)
    ¬(mtas lookup).Consults lookup fun t r => r = .ok () ↔ ∀ a ∈ t, a.error? = none := by
  intro found lookup h
  have hwide : ¬Table.Fits (mtaTable [found]) :=
    Table.not_fits_of_letters (Nat.lt_succ_self _)
      (List.mem_cons_of_mem _ List.mem_cons_self) List.mem_cons_self
  -- no call fails that leads from one state to another
  have hall : ∀ {s s' : Unit} {t : List (Asked LookupCall)}, Leads lookup s t s' →
      ∀ a ∈ t, a.error? = none := by
    intro s s' t hl
    induction hl with
    | nil => simp
    | cons call _ ih =>
      refine List.forall_mem_cons.mpr ⟨?_, ih⟩
      cases call <;> rfl
  obtain ⟨t, hl, hr⟩ := h ⟨(), []⟩
  obtain ⟨_, hl', ⟨answer, rfl⟩, hend⟩ := mtas_once lookup ⟨(), []⟩
  cases hl' with
  | cons _ _ => exact (hend.ok_iff.mp (hr.mpr (hall hl))).2.2 ⟨[found], rfl, hwide⟩

example :
    let missing : Error := ⟨["Could not list"], .client 404 "Not Found" "No such space"⟩
    let lookup : Service Unit LookupCall := fun _ s => (.error missing, s)
    (mta lookup "shop" none ⟨(), []⟩).1 = .error (.plain "Multi-target app shop not found") ∧
      (mtas lookup ⟨(), []⟩).1 = .error (missing.within "Could not get deployed components") :=
  ⟨rfl, rfl⟩

end Command

end DeployService
