import DeployService.Program
import DeployService.Proofs.Attempt
import DeployService.Proofs.Dialogues
import Mathlib

/-!
# What is checked before anything is sent

A command line may be well formed and still ask for something that cannot be done: there may be no
deploy service, an option that the command needs may be missing, or there may be no such action
(`Program.Unusable`). The checks for this are spread over the program and its commands, but nothing
at all happens before the last of them (`Program.perform_unusable`), and each one fails with an
error of its own text, so that the program ends in the usual way.

If a token is given, the tool that prints tokens is not needed, and it is never run: neither the
transport nor the commands have anything to do with the access tokens (`Call.Leaves`), and a client
with a token of its own takes that one for every attempt.
-/

namespace DeployService

open DeployService.Http

/-! ## Calls that leave something alone -/

/-- The call leaves what is looked at as it is. -/
def Call.Leaves {σ α γ : Type} (view : σ → γ) (x : Call σ α) : Prop := ∀ s, view (x s).2 = view s

namespace Call

variable {σ α β γ : Type} {view : σ → γ} {x : Call σ α}

theorem leaves_ofExcept (r : Except Error α) : (ofExcept r).Leaves view := fun _ => rfl

theorem Leaves.bind (hx : x.Leaves view) {f : α → Call σ β} (hf : ∀ a, (f a).Leaves view) :
    (x >>= f).Leaves view := by
  intro s
  have hs := hx s
  rcases hr : x s with ⟨e | a, s₁⟩ <;> rw [hr] at hs
  · rwa [bind_error hr]
  · rw [bind_ok hr]
    exact (hf a s₁).trans hs

theorem Leaves.mapError (hx : x.Leaves view) (f : Error → Error) : (x.mapError f).Leaves view := by
  intro s
  rw [mapError_eq]
  exact hx s

theorem Leaves.retried (hx : x.Leaves view) {pause : Nat → σ → σ}
    (hp : ∀ ms s, view (pause ms s) = view s) (p : RetryPolicy) :
    (p.call pause x).Leaves view := by
  obtain ⟨n, interval⟩ := p
  induction n with
  | zero => exact hx
  | succ n ih =>
    intro s
    rw [RetryPolicy.call_succ]
    split
    · rw [ih, hp, hx]
    · exact hx s

/-- A command leaves alone what all calls of its service do. -/
theorem Consults.leaves {F : Type → Type} {service : Service σ F} {x : Call (Console σ) α}
    {P : List (Asked F) → Except Error α → Prop} (h : x.Consults service P)
    (hs : ∀ {β : Type} (call : F β), (service call).Leaves view) :
    x.Leaves fun c => view c.state := by
  intro c
  obtain ⟨t, hl, -⟩ := h c
  exact hl.unchanged fun call => hs call

end Call

/-! ## Access tokens -/

/-- The transport has nothing to do with the access tokens. -/
def Transport.LeavesTokens (base : Transport) : Prop :=
  ∀ request, (base request).Leaves Session.tokens

section Transports

variable {base : Transport} (hb : base.LeavesTokens)

theorem Transport.direct_leavesTokens : Transport.LeavesTokens .direct := fun _ _ => rfl

include hb

theorem Transport.platform_leavesTokens : (Transport.platform base).LeavesTokens :=
  fun _ => (Call.leaves_ofExcept _).bind fun _ => (hb _).mapError _

theorem Csrf.fetch_leaves (guard : Csrf.Guard) (request : Request) :
    (Csrf.fetch guard base request).Leaves Session.tokens := by
  have hcookies : ∀ url response,
      (Csrf.sessionCookies guard url response).Leaves Session.tokens := by
    intro url response s
    rw [Csrf.sessionCookies_eq]
    exact Csrf.opened_tokens guard url response s
  refine Call.Leaves.bind ((hb _).mapError _) fun response => (hcookies _ response).bind ?_
  rintro (_ | cookies)
  · exact fun _ => rfl
  · exact ((hb _).mapError _).bind fun _ _ => rfl

theorem Csrf.updateToken_leaves (guard : Csrf.Guard) (request : Request) :
    (Csrf.updateToken guard base request).Leaves Session.tokens := by
  intro s
  have hfetch := Csrf.fetch_leaves hb guard request s
  unfold Csrf.updateToken
  cases Csrf.valid? guard s with
  | some token => rfl
  | none =>
    rcases hr : Csrf.fetch guard base request s with ⟨e | token, s'⟩ <;> rw [hr] at hfetch <;>
      exact hfetch

theorem Transport.guarded_leavesTokens (guard : Csrf.Guard) :
    (Transport.guarded guard base).LeavesTokens := by
  intro request
  unfold Transport.guarded
  split
  · refine (Call.leaves_ofExcept _).bind fun copy => ?_
    refine (Csrf.updateToken_leaves hb guard copy).bind fun token => ?_
    refine (hb _).bind fun response => ?_
    split
    · exact fun _ => rfl
    · exact fun _ => rfl
  · exact hb request

theorem Transport.named_leavesTokens (agent : String) :
    (Transport.named agent base).LeavesTokens := by
  intro request
  refine (Call.leaves_ofExcept _).bind fun copy => ?_
  split
  · exact fun _ => rfl
  · exact hb _

theorem Channel.submit_leaves (c : Channel) (e : Endpoint) (token : Token) :
    (c.submit base e token).Leaves Session.tokens := by
  refine Call.Leaves.bind (fun _ => rfl) fun request => ?_
  refine (Transport.named_leavesTokens hb c.userAgent request).bind fun response => ?_
  exact Call.Leaves.bind (fun _ => rfl) fun _ => Call.leaves_ofExcept _

end Transports

theorem Client.run_leaves (c : Client) (hb : c.transport.LeavesTokens) {token : String}
    (hs : c.supply = .fixed token) {α : Type} (x : Exchange α) :
    (c.run x).Leaves Session.tokens := by
  have hnext : (Session.nextToken c.supply).Leaves Session.tokens := by
    rw [hs]
    exact fun _ => rfl
  have hsend : (c.send x.endpoint).Leaves Session.tokens :=
    (hnext.mapError _).bind fun token => (c.channel.submit_leaves hb _ token).mapError _
  exact hsend.bind fun _ => Call.leaves_ofExcept _

theorem OpenClient.run_leaves (c : OpenClient) (hb : c.client.transport.LeavesTokens)
    {token : String} (hs : c.client.supply = .fixed token) {α : Type} (x : Exchange α) :
    (c.run x).Leaves Network.tokens := by
  have hunder : (c.client.runUnder c.policy x).Leaves Session.tokens := by
    have hrun := c.client.run_leaves hb hs x
    unfold Client.runUnder
    split
    · next p _ =>
      exact hrun.retried (fun ms s => (rfl : (Session.pause ms s).tokens = s.tokens)) p
    · exact hrun
  intro n
  have hsame := hunder (Network.session c n)
  show updateAt n.tokens c.connection _ = n.tokens
  funext i
  unfold updateAt
  split
  · next h =>
    rw [h]
    exact hsame
  · rfl

/-! ## Commands that cannot be carried out -/

/-- The command does nothing but fail, with an error that something was noticed. -/
def Call.Declines {σ : Type} (x : Call σ Unit) : Prop := ∀ s, ∃ e, e.IsPlain ∧ x s = (.error e, s)

namespace Call

variable {σ α : Type} {r : Except Error α} {f : α → Call σ Unit}

theorem declines_fail (σ : Type) (message : String) :
    (Call.fail (.plain message) : Call σ Unit).Declines :=
  fun _ => ⟨_, Error.isPlain_plain message, rfl⟩

theorem declines_of_error {e : Error} (hr : r = .error e) (he : e.IsPlain) :
    (ofExcept r >>= f).Declines :=
  fun s => ⟨e, he, bind_error (congrArg (·, s) hr)⟩

theorem declines_of_ok {a : α} (hr : r = .ok a) (h : (f a).Declines) :
    (ofExcept r >>= f).Declines := by
  intro s
  obtain ⟨e, he, hf⟩ := h s
  exact ⟨e, he, (bind_ok (congrArg (·, s) hr)).trans hf⟩

end Call

/-- An action that is not known does nothing at all. -/
theorem Command.act_unknown {σ : Type} (service : Service σ OperationsCall) (operation : String)
    {name : String} (h : name ∉ knownActions) : (act service operation name).Declines := by
  unfold act
  rw [if_pos (by simpa using h)]
  exact Call.declines_fail _ _

namespace Program

open DeployService.CommandLine

/-- The options that a command cannot do without. -/
def needed (i : Invocation) : List (Option String) :=
  match i.command with
  | .purge => [i.org, i.space]
  | .info => []
  | _ => [i.spaceGuid]

/-- The option is not given, or blank. -/
def IsMissing (option : Option String) : Prop :=
  ∀ value, option = some value → Text.isBlankText value = true

/-- What is asked for cannot be carried out. -/
inductive Unusable (i : Invocation) (settings : Settings) : Prop where
  /-- There is no deploy service. -/
  | noService {e : Error} (h : ServiceUrl.choose i.url settings i.platform = .error e)
  /-- An option is missing. -/
  | missing {option : Option String} (hn : option ∈ needed i) (h : IsMissing option)
  /-- There is no such action. -/
  | unknown {operation name : String} (hc : i.command = .act operation name)
    (h : name ∉ Command.knownActions)

/-! ### The single checks -/

theorem require_error {option : Option String} {name : String} {e : Error}
    (h : require option name = .error e) : e.IsPlain := by
  unfold require at h
  split at h
  · cases h
  · injection h with h
    exact h ▸ Error.isPlain_plain _

theorem require_missing {option : Option String} (h : IsMissing option) (name : String) :
    ∃ e, require option name = .error e := by
  have hnone : option.filter (fun s => !Text.isBlankText s) = none := by
    simpa [Option.filter_eq_none_iff, IsMissing] using h
  unfold require
  rw [hnone]
  exact ⟨_, rfl⟩

theorem platformHost_error {platform : String} {e : Error}
    (h : ServiceUrl.platformHost platform = .error e) : e.IsPlain := by
  unfold ServiceUrl.platformHost at h
  split at h
  · split at h
    · cases h
    · injection h with h
      exact h ▸ Error.isPlain_plain _
  · cases h

theorem ofPlatform_error {platform : String} {e : Error}
    (h : ServiceUrl.ofPlatform platform = .error e) : e.IsPlain := by
  have hunderivable : (ServiceUrl.ofPlatform.underivable platform).IsPlain :=
    Error.isPlain_plain _
  rcases hr : ServiceUrl.platformHost platform with e' | host <;>
    simp only [ServiceUrl.ofPlatform, hr, bind, Except.bind] at h
  · cases h
    exact platformHost_error hr
  · split at h
    · split at h
      · cases h
        exact hunderivable
      · cases h
    · cases h
      exact hunderivable

theorem choose_error {url platform : Option String} {settings : Settings} {e : Error}
    (h : ServiceUrl.choose url settings platform = .error e) : e.IsPlain := by
  unfold ServiceUrl.choose at h
  split at h
  · cases h
  · split at h
    · cases h
    · split at h
      · exact ofPlatform_error h
      · injection h with h
        exact h ▸ Error.isPlain_plain _

/-! ### All checks -/

/-- A command without an option that it needs does nothing at all. -/
theorem action_missing {i : Invocation} {option : Option String} (hn : option ∈ needed i)
    (h : IsMissing option) (conn : Connection) : (action i conn).Declines := by
  obtain ⟨url, platform, org, space, guid, token, command⟩ := i
  have hstop : ∀ (name : String) (run : String → Action),
      (Call.ofExcept (require option name) >>= run).Declines := by
    intro name run
    obtain ⟨e, he⟩ := require_missing h name
    exact Call.declines_of_error he (require_error he)
  cases command with
  | purge =>
    rcases hr : require org "org" with e | value
    · exact Call.declines_of_error hr (require_error hr)
    · have hspace : option = space := by
        rcases List.mem_pair.mp hn with rfl | hspace
        · obtain ⟨e, he⟩ := require_missing h "org"
          rw [he] at hr
          cases hr
        · exact hspace
      subst hspace
      exact Call.declines_of_ok hr (hstop "space" _)
  | info => cases hn
  | mtas | mta | operations | logs | act =>
    obtain rfl := List.mem_singleton.mp hn
    exact hstop "space-guid" _

/-- Nothing at all happens if the command cannot be carried out. -/
theorem perform_unusable {i : Invocation} {settings : Settings} (h : Unusable i settings)
    (b : UserAgent.Build) : (perform i settings b).Declines := by
  rcases hr : ServiceUrl.choose i.url settings i.platform with e | host
  · exact Call.declines_of_error hr (choose_error hr)
  · refine Call.declines_of_ok hr ?_
    cases h with
    | noService h =>
      rw [h] at hr
      cases hr
    | missing hn h => exact action_missing hn h _
    | @unknown operation name hc h =>
      simp only [action, hc]
      -- the option is checked before the action is
      rcases hg : require i.spaceGuid "space-guid" with e | guid
      · exact Call.declines_of_error rfl (require_error hg)
      · exact Call.declines_of_ok rfl fun c => Command.act_unknown _ operation h _

/-! ## Commands with a given token -/

theorem withClient_leaves {α : Type} {handOut : Network → α × Factory × Network}
    {run : α → Action} (hout : ∀ n, (handOut n).2.2 = n)
    (hrun : ∀ n, (run (handOut n).1).Leaves fun c => c.state.tokens) :
    (withClient handOut run).Leaves fun c => c.state.tokens :=
  fun c => (hrun c.state _).trans (congrArg Network.tokens (hout c.state))

theorem action_leaves (i : Invocation) (host userAgent token : String) :
    (action i (connection host userAgent (some token))).Leaves fun c => c.state.tokens := by
  have hrun : ∀ {opened : OpenClient},
      opened.client.transport = (connection host userAgent (some token)).transport →
      opened.client.supply = .fixed token → ∀ {α : Type} (x : Exchange α),
      (opened.run x).Leaves Network.tokens := by
    intro opened htransport hsupply α x
    have hplatform := Transport.platform_leavesTokens Transport.direct_leavesTokens
    refine opened.run_leaves ?_ hsupply x
    rw [htransport]
    exact Transport.guarded_leavesTokens hplatform _
  unfold action
  split
  · refine (Call.leaves_ofExcept _).bind fun org => (Call.leaves_ofExcept _).bind fun space => ?_
    refine withClient_leaves (fun _ => rfl) fun n => ?_
    exact (Command.purge_once _ org space).leaves fun call => hrun rfl rfl _
  · refine (Call.leaves_ofExcept _).bind fun guid => withClient_leaves (fun _ => rfl) fun n => ?_
    exact (Command.mtas_once _).leaves fun call => hrun rfl rfl _
  · refine (Call.leaves_ofExcept _).bind fun guid => withClient_leaves (fun _ => rfl) fun n => ?_
    exact (Command.mta_concludes _ _ _).leaves fun call => hrun rfl rfl _
  · refine (Call.leaves_ofExcept _).bind fun guid => withClient_leaves (fun _ => rfl) fun n => ?_
    exact (Command.operations_once _ _ _ _).leaves fun call => hrun rfl rfl _
  · refine (Call.leaves_ofExcept _).bind fun guid => withClient_leaves (fun _ => rfl) fun n => ?_
    exact (Command.logs_concludes _ _ _).leaves fun call => hrun rfl rfl _
  · refine (Call.leaves_ofExcept _).bind fun guid => withClient_leaves (fun _ => rfl) fun n => ?_
    exact (Command.act_concludes _ _ _).leaves fun call => hrun rfl rfl _
  · refine withClient_leaves (fun _ => rfl) fun n => ?_
    exact (Command.info_once _).leaves fun call => hrun rfl rfl _

theorem perform_leaves {i : Invocation} (settings : Settings) (b : UserAgent.Build)
    {token : String} (ht : i.token = some token) :
    (perform i settings b).Leaves fun c => c.state.tokens := by
  refine (Call.leaves_ofExcept _).bind fun host => ?_
  rw [ht]
  exact action_leaves i host (settings.userAgent b) token

/-! ## The program -/

theorem failure_of_isPlain {e : Error} (h : e.IsPlain) : (failure e).1 = 1 := by
  rcases h with ⟨message, h⟩ | ⟨fault, h⟩ <;> simp only [failure, h]

/-- What comes of a command line that is well formed. -/
theorem run_parsed {start : Start} {i : Invocation}
    (h : parse start.words (start.environment tokenVariable) = .ok i)
    {r : Except Error Unit} {c : Console Network}
    (hp : perform i (Settings.load start.environment).1 start.build ⟨network start, []⟩ = (r, c)) :
    (run start).exit = (match r with | .ok () => 0 | .error e => (failure e).1) ∧
      (run start).sent = c.state.sent ∧
      (run start).toolRuns = TokenSource.tool.toolRuns (c.state.tokens 0) := by
  unfold run
  rw [h]
  simp only [hp]
  cases r <;> exact ⟨rfl, rfl, rfl⟩

/-- The program has checked everything before it does anything, and it runs the tool only if it has
to. -/
structure ChecksFirst (start : Start) (i : Invocation) : Prop where
  /-- What cannot be carried out fails without a request and without a run of the tool. -/
  unusable : Unusable i (Settings.load start.environment).1 →
    (run start).exit = 1 ∧ (run start).sent = [] ∧ (run start).toolRuns = []
  /-- If a token is given, the tool is never run. -/
  given : i.token ≠ none → (run start).toolRuns = []

/-- **Nothing is sent before the command line is known to be usable.** For every command line that
is well formed, in every environment, and whatever the server and the tool answer. -/
theorem checks_first {start : Start} {i : Invocation}
    (h : parse start.words (start.environment tokenVariable) = .ok i) :
    ChecksFirst start i where
  unusable hu := by
    obtain ⟨e, he, hperform⟩ := perform_unusable hu start.build ⟨network start, []⟩
    obtain ⟨hexit, hsent, hruns⟩ := run_parsed h hperform
    exact ⟨hexit.trans (failure_of_isPlain he), hsent, hruns⟩
  given ht := by
    obtain ⟨token, htoken⟩ := Option.ne_none_iff_exists'.mp ht
    have htokens := perform_leaves (Settings.load start.environment).1 start.build htoken
      ⟨network start, []⟩
    have hruns := (run_parsed h rfl).2.2
    rw [hruns]
    exact congrArg (fun tokens => TokenSource.tool.toolRuns (tokens 0)) htokens

/-- An action that is not known, and a command that is attempted four times with a given token. -/
theorem unknown_action_unsent :
    let start (words : List String) : Start :=
      { words
        environment := fun _ => .unset
        clock := 0
        toolAnswers := fun _ => .ok "bearer a"
        answers := fun _ => .error (.of (.external .http)) }
    let exploding := start ["action", "-i", "1", "-a", "explode", "--space-guid", "g", "-u", "h"]
    let attempted := start ["info", "--token", "b", "-u", "h"]
    (run exploding).exit = 1 ∧ (run exploding).sent = [] ∧ (run exploding).toolRuns = [] ∧
      (run attempted).sent.length = 4 ∧ (run attempted).toolRuns = [] := by
  intro start exploding attempted
  have hexploding : parse exploding.words .unset = .ok
      { url := some "h", platform := none, org := none, space := none, spaceGuid := some "g",
        token := none, command := .act "1" "explode" } := by decide +kernel
  have hattempted : parse attempted.words .unset = .ok
      { url := some "h", platform := none, org := none, space := none, spaceGuid := none,
        token := some "b", command := .info } := by decide +kernel
  obtain ⟨hexit, hsent, hruns⟩ := (checks_first hexploding).unusable (.unknown rfl (by decide))
  have hgiven := (checks_first hattempted).given (by decide)
  exact ⟨hexit, hsent, hruns, by decide +kernel, hgiven⟩

end Program

end DeployService
