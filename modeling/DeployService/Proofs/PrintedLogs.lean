import DeployService.Proofs.Dialogues

/-!
# What is printed of the logs of an operation

A command asks a service and prints lines, by turns. What it does is a list of such deeds (`Deed`),
from which its calls can be read off as well as its lines (`Does`), so that the ones can be seen to
keep in step with the others.

The contents of logs are asked for one after the other, and each one is printed when it is there. So
there are only two ways in which this ends (`Shows`): either all contents are obtained and printed,
or some content is not to be had, and then the contents before it are printed, nothing of it or of
the ones behind it is, and the error is passed on.
-/

namespace DeployService

variable {F : Type → Type} {σ α β : Type} {service : Service σ F}

/-! ## Calls and lines -/

/-- Something that a command does. -/
inductive Deed (F : Type → Type) where
  | ask (asked : Asked F)
  | say (line : String)

namespace Deed

def asked? : Deed F → Option (Asked F)
  | ask asked => some asked
  | say _ => none

def line? : Deed F → Option String
  | ask _ => none
  | say line => some line

/-- The calls among some deeds. -/
def asked (t : List (Deed F)) : List (Asked F) := t.filterMap asked?

/-- The lines among some deeds. -/
def said (t : List (Deed F)) : List String := t.filterMap line?

theorem asked_append (t t' : List (Deed F)) : asked (t ++ t') = asked t ++ asked t' :=
  List.filterMap_append

theorem said_append (t t' : List (Deed F)) : said (t ++ t') = said t ++ said t' :=
  List.filterMap_append

end Deed

/-- The deeds `t` lead from the console `c` to the console `c'`: the service is where the calls have
led to, and what was said is printed, and nothing else. -/
structure Does (service : Service σ F) (c : Console σ) (t : List (Deed F)) (c' : Console σ) :
    Prop where
  leads : Leads service c.state (Deed.asked t) c'.state
  lines : c'.lines = c.lines ++ Deed.said t

namespace Does

variable {c c' c'' : Console σ} {t t' : List (Deed F)}

theorem nil (c : Console σ) : Does service c [] c := ⟨.nil _, (List.append_nil _).symm⟩

theorem append (h : Does service c t c') (h' : Does service c' t' c'') :
    Does service c (t ++ t') c'' where
  leads := by
    rw [Deed.asked_append]
    exact h.leads.append h'.leads
  lines := by rw [h'.lines, h.lines, Deed.said_append, List.append_assoc]

end Does

namespace Console

theorem say_does (line : String) :
    (say line).Traces (Does service) fun t r => t = [.say line] ∧ r = .ok () :=
  fun _ => ⟨_, ⟨.nil _, rfl⟩, rfl, rfl⟩

theorem sayAll_does (lines : List String) :
    (sayAll lines).Traces (Does service) fun t r => t = lines.map .say ∧ r = .ok () := by
  have hasked : Deed.asked (lines.map .say : List (Deed F)) = [] := by
    simp [Deed.asked, Deed.asked?, List.filterMap_map, Function.comp_def]
  have hsaid : Deed.said (lines.map .say : List (Deed F)) = lines := by
    simp [Deed.said, Deed.line?, List.filterMap_map, Function.comp_def]
  refine fun c => ⟨_, ⟨?_, ?_⟩, rfl, rfl⟩
  · rw [hasked]
    exact .nil _
  · rw [hsaid]
    rfl

theorem pure_does (a : α) :
    (pure a : Call (Console σ) α).Traces (Does service) fun t r => t = [] ∧ r = .ok a :=
  fun c => ⟨[], .nil c, rfl, rfl⟩

theorem saying (line : String) {k : Unit → Call (Console σ) α}
    {Q : List (Deed F) → Except Error α → Prop} (hk : (k ()).Traces (Does service) Q) :
    (say line >>= k).Traces (Does service) fun t r => ∃ t', t = .say line :: t' ∧ Q t' r := by
  refine Call.Traces.mono (.bind Does.append (say_does line) fun _ => hk) ?_
  rintro t r (⟨_, ⟨_, ⟨⟩⟩, _⟩ | ⟨_, t, _, rfl, ⟨rfl, _⟩, h⟩)
  exact ⟨t, rfl, h⟩

/-- A call, and then something else if it succeeds. -/
theorem asking (call : F α) (context : String) {k : α → Call (Console σ) β}
    {Q : α → List (Deed F) → Except Error β → Prop}
    (hk : ∀ a, (k a).Traces (Does service) (Q a)) :
    ((ask (service call)).within context >>= k).Traces (Does service) fun t r =>
      (∃ e, t = [.ask ⟨α, call, .error e⟩] ∧ r = .error (e.within context)) ∨
        ∃ a t', t = .ask ⟨α, call, .ok a⟩ :: t' ∧ Q a t' r := by
  have hask : ((ask (service call)).within context).Traces (Does service) fun t r =>
      ∃ result, t = [.ask ⟨α, call, result⟩] ∧ r = result.mapError (Error.within context) := by
    intro c
    rw [Call.within, Call.mapError_eq]
    exact ⟨_, ⟨.cons call (.nil _), (List.append_nil _).symm⟩, _, rfl, rfl⟩
  refine Call.Traces.mono (.bind Does.append hask hk) ?_
  rintro t r (⟨_, ⟨e | _, rfl, he⟩, rfl⟩ | ⟨_, t, a, rfl, ⟨_ | _, rfl, ha⟩, h⟩)
  · cases he
    exact .inl ⟨e, rfl, rfl⟩
  · cases he
  · cases ha
  · cases ha
    exact .inr ⟨a, t, rfl, h⟩

end Console

/-! ## Contents one by one -/

namespace Command

open DeployService.Payload

/-- A content is asked for and obtained, and printed below the id of its log. -/
def shown (operation : String) (obtained : String × String) : List (Deed OperationsCall) :=
  [.ask ⟨String, .logContent operation obtained.1, .ok obtained.2⟩,
    .say ("==> " ++ obtained.1 ++ " <=="), .say obtained.2]

theorem asked_shown (operation : String) (obtained : List (String × String)) :
    Deed.asked (obtained.flatMap (shown operation)) =
      obtained.map fun p => ⟨String, .logContent operation p.1, .ok p.2⟩ := by
  induction obtained with
  | nil => rfl
  | cons p obtained ih =>
    rw [List.flatMap_cons, Deed.asked_append, ih]
    rfl

theorem said_shown (operation : String) (obtained : List (String × String)) :
    Deed.said (obtained.flatMap (shown operation)) =
      obtained.flatMap fun p => ["==> " ++ p.1 ++ " <==", p.2] := by
  induction obtained with
  | nil => rfl
  | cons p obtained ih =>
    rw [List.flatMap_cons, Deed.said_append, ih]
    rfl

/-- What is done to show some logs, and how it ends. The logs whose contents were obtained stand in
pairs with these. -/
inductive Shows (operation : String) :
    List String → List (Deed OperationsCall) → Except Error Unit → Prop where
  | all (obtained : List (String × String)) :
    Shows operation (obtained.map Prod.fst) (obtained.flatMap (shown operation)) (.ok ())
  /-- The content of `log` is the first one that was not. -/
  | upTo (obtained : List (String × String)) (log : String) (rest : List String) (e : Error) :
    Shows operation (obtained.map Prod.fst ++ log :: rest)
      (obtained.flatMap (shown operation) ++
        [.ask ⟨String, .logContent operation log, .error e⟩])
      (.error (e.within ("Could not get content of log " ++ log)))

namespace Shows

variable {operation : String} {logs : List String} {t : List (Deed OperationsCall)}
  {r : Except Error Unit}

/-- One more content that was obtained before. -/
theorem cons (log content : String) (h : Shows operation logs t r) :
    Shows operation (log :: logs) (shown operation (log, content) ++ t) r := by
  cases h with
  | all obtained => exact .all ((log, content) :: obtained)
  | upTo obtained failing rest e =>
    rw [← List.append_assoc]
    exact .upTo ((log, content) :: obtained) failing rest e

/-- It succeeds exactly if all contents were obtained. -/
theorem ok_iff (h : Shows operation logs t r) :
    r = .ok () ↔ ∀ a ∈ Deed.asked t, a.error? = none := by
  cases h with
  | all obtained =>
    refine ⟨fun _ a ha => ?_, fun _ => rfl⟩
    rw [asked_shown] at ha
    obtain ⟨_, -, rfl⟩ := List.mem_map.mp ha
    rfl
  | upTo obtained log rest e =>
    refine ⟨nofun, fun hall => ?_⟩
    have hfailing := hall ⟨String, .logContent operation log, .error e⟩
      (by simp [Deed.asked, Deed.asked?])
    cases hfailing

/-- The lines come in pairs. -/
theorem even_length_said (h : Shows operation logs t r) : Even (Deed.said t).length := by
  cases h with
  | all obtained => simp [said_shown]
  | upTo obtained log rest e =>
    have hnone : Deed.said [(.ask ⟨String, .logContent operation log, .error e⟩ :
      Deed OperationsCall)] = [] := rfl
    simp [Deed.said_append, said_shown, hnone]

end Shows

/-- One log: the content is not to be had, or it is printed. -/
theorem printLog_does (service : Service σ OperationsCall) (operation log : String) :
    (printLog service operation log).Traces (Does service) fun t r =>
      (∃ e, t = [.ask ⟨String, .logContent operation log, .error e⟩] ∧
        r = .error (e.within ("Could not get content of log " ++ log))) ∨
      ∃ content, t = shown operation (log, content) ∧ r = .ok () := by
  refine Call.Traces.mono (Console.asking _ _ fun content => Console.sayAll_does _) ?_
  rintro t r (hfailed | ⟨content, _, rfl, rfl, rfl⟩)
  · exact .inl hfailed
  · exact .inr ⟨content, rfl, rfl⟩

/-- Any logs, by induction on them. -/
theorem printLogs_shows (service : Service σ OperationsCall) (operation : String)
    (logs : List String) :
    (printLogs service operation logs).Traces (Does service) (Shows operation logs) := by
  induction logs with
  | nil => exact fun c => ⟨[], .nil c, .all []⟩
  | cons log logs ih =>
    -- either the first log fails and the others are left out, or they go on behind it
    refine Call.Traces.mono (.bind Does.append (printLog_does service operation log) fun _ => ih) ?_
    rintro t r (⟨_, hlog, rfl⟩ | ⟨_, t, _, rfl, hlog, h⟩)
    · rcases hlog with ⟨e, rfl, he⟩ | ⟨_, _, he⟩
      · cases he
        exact .upTo [] log logs e
      · cases he
    · rcases hlog with ⟨_, _, ha⟩ | ⟨content, rfl, _⟩
      · cases ha
      · exact h.cons log content

/-! ## The whole command -/

/-- What is said before anything is asked. -/
def logsHeading (operation : String) : String :=
  "Getting logs of multi-target app operation with id " ++ operation ++ "..."

/-- What is done to show one given log or all logs of an operation, and how it ends. -/
inductive ShowsLogs (operation : String) :
    Option String → List (Deed OperationsCall) → Except Error Unit → Prop where
  /-- The logs are not listed to show a given one. -/
  | one (log : String) {t : List (Deed OperationsCall)} {r : Except Error Unit}
    (h : Shows operation [log] t r) :
    ShowsLogs operation (some log) (.say (logsHeading operation) :: t) r
  | unlisted (e : Error) :
    ShowsLogs operation none
      [.say (logsHeading operation), .ask ⟨List LogFile, .logs operation, .error e⟩]
      (.error (e.within "Could not get process logs"))
  | nothing :
    ShowsLogs operation none
      [.say (logsHeading operation), .ask ⟨List LogFile, .logs operation, .ok []⟩,
        .say "No logs found"]
      (.ok ())
  | listed (found : List LogFile) (hfound : found ≠ []) {t : List (Deed OperationsCall)}
    {r : Except Error Unit} (h : Shows operation (found.map LogFile.id) t r) :
    ShowsLogs operation none
      (.say (logsHeading operation) :: .ask ⟨List LogFile, .logs operation, .ok found⟩ :: t) r

/-- Logs that are known, and what is said if there are none. -/
theorem printLogs_orNone (service : Service σ OperationsCall) (operation : String)
    (logs : List String) :
    (printLogs service operation logs >>= fun _ =>
      if logs.isEmpty then Console.say "No logs found" else pure ()).Traces (Does service)
      fun t r => (logs = [] ∧ t = [.say "No logs found"] ∧ r = .ok ()) ∨
        (logs ≠ [] ∧ Shows operation logs t r) := by
  cases logs with
  | nil => exact Call.Traces.mono (Console.say_does _) fun _ _ h => .inl ⟨rfl, h⟩
  | cons log logs =>
    refine Call.Traces.mono (.bind Does.append (printLogs_shows service operation (log :: logs))
      fun _ => Console.pure_does ()) ?_
    rintro t r (⟨e, h, rfl⟩ | ⟨t, _, ⟨⟩, rfl, h, rfl, rfl⟩)
    · exact .inr ⟨List.cons_ne_nil _ _, h⟩
    · rw [List.append_nil]
      exact .inr ⟨List.cons_ne_nil _ _, h⟩

theorem logs_does (service : Service σ OperationsCall) (operation : String)
    (log : Option String) :
    (logs service operation log).Traces (Does service) (ShowsLogs operation log) := by
  have hprint := printLogs_orNone service operation
  cases log with
  | some id =>
    refine Call.Traces.mono (Console.saying _ (hprint [id])) ?_
    rintro _ r ⟨t, rfl, ⟨⟨⟩, _⟩ | ⟨_, h⟩⟩
    exact .one id h
  | none =>
    refine Call.Traces.mono (Console.saying _ (Console.asking _ _ fun found =>
      hprint (found.map LogFile.id))) ?_
    rintro _ r ⟨_, rfl, ⟨e, rfl, rfl⟩ | ⟨found, t, rfl, ⟨hfound, rfl, rfl⟩ | ⟨hfound, h⟩⟩⟩
    · exact .unlisted e
    · obtain rfl := List.map_eq_nil_iff.mp hfound
      exact .nothing
    · exact .listed found (mt List.map_eq_nil_iff.mpr hfound) h

namespace ShowsLogs

variable {operation : String} {log : Option String} {t : List (Deed OperationsCall)}
  {r : Except Error Unit}

theorem ok_iff (h : ShowsLogs operation log t r) :
    r = .ok () ↔ ∀ a ∈ Deed.asked t, a.error? = none := by
  cases h with
  | one log h => exact h.ok_iff
  | unlisted e => simp [Deed.asked, Deed.asked?, Asked.error?, RetryPolicy.errorOf?]
  | nothing => simp [Deed.asked, Deed.asked?, Asked.error?, RetryPolicy.errorOf?]
  | listed found _ h =>
    rw [h.ok_iff]
    exact ⟨fun hall => List.forall_mem_cons.mpr ⟨rfl, hall⟩, fun hall =>
      (List.forall_mem_cons.mp hall).2⟩

/-- That there are no logs is said exactly if the list of logs is empty. -/
theorem nothing_iff (h : ShowsLogs operation log t r) :
    Deed.said t = [logsHeading operation, "No logs found"] ↔
      log = none ∧ Deed.asked t = [⟨List LogFile, .logs operation, .ok []⟩] := by
  -- contents come with a line above them, so a single line is none of theirs whatever it says
  have hodd : ∀ {logs t}, Shows operation logs t r → Deed.said t ≠ ["No logs found"] := by
    intro logs t h hsaid
    have := h.even_length_said
    simp [hsaid] at this
  cases h with
  | one log h =>
    refine ⟨fun hsaid => (hodd h (List.cons.inj hsaid).2).elim, ?_⟩
    rintro ⟨⟨⟩, -⟩
  | unlisted e =>
    refine ⟨?_, ?_⟩
    · rintro ⟨⟩
    · rintro ⟨-, ⟨⟩⟩
  | nothing => exact ⟨fun _ => ⟨rfl, rfl⟩, fun _ => rfl⟩
  | listed found hfound h =>
    refine ⟨fun hsaid => (hodd h (List.cons.inj hsaid).2).elim, ?_⟩
    rintro ⟨-, hasked⟩
    cases (List.cons.inj hasked).1
    exact absurd rfl hfound

end ShowsLogs

/-- **Requests, lines and result keep in step.** Whatever the service does, the contents are asked
for in the order of the logs up to the first that is not to be had, exactly those that are obtained
are printed, and the command succeeds exactly if these are all. -/
theorem logs_printed (service : Service σ OperationsCall) (operation : String)
    (log : Option String) (c : Console σ) :
    ∃ t, Does service c t (logs service operation log c).2 ∧
      ShowsLogs operation log t (logs service operation log c).1 ∧
      ((logs service operation log c).1 = .ok () ↔ ∀ a ∈ Deed.asked t, a.error? = none) ∧
      (Deed.said t = [logsHeading operation, "No logs found"] ↔
        log = none ∧ Deed.asked t = [⟨List LogFile, .logs operation, .ok []⟩]) := by
  obtain ⟨t, hdoes, hshows⟩ := logs_does service operation log c
  exact ⟨t, hdoes, hshows, hshows.ok_iff, hshows.nothing_iff⟩

example :
    let gone : Error := ⟨[], .client 404 "Not Found" ""⟩
    let service : Service Unit OperationsCall := fun call s =>
      match call with
      | .logContent _ log => (if log = "b" then .error gone else .ok ("content of " ++ log), s)
      | _ => (.error gone, s)
    (printLogs service "1" ["a", "", "b", "a"] ⟨(), []⟩) =
      (.error (gone.within "Could not get content of log b"),
        ⟨(), ["==> a <==", "content of a", "==>  <==", "content of "]⟩) := by
  rfl

end Command

end DeployService
