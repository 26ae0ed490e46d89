import Gr4ControlPlane.Cli.Commands

namespace Gr4ControlPlane.Cli

inductive CreateOption
  | file (value : Bytes)
  | name (value : Bytes)
  | url (value : Bytes)
  deriving DecidableEq

def CreateOption.args : CreateOption → List Bytes
  | .file value => [ascii "--file", value]
  | .name value => [ascii "--name", value]
  | .url value => [ascii "--url", value]

def CreateOption.apply (options : CreateOptions) : CreateOption → CreateOptions
  | .file value => { options with filePath := value }
  | .name value => { options with name := value }
  | .url value => { options with url := value }

inductive Verb
  | get | start | stop | restart | delete
  deriving DecidableEq

def Verb.word : Verb → Bytes
  | .get => ascii "get"
  | .start => ascii "start"
  | .stop => ascii "stop"
  | .restart => ascii "restart"
  | .delete => ascii "delete"

def Verb.method : Verb → HttpMethod
  | .get => .get
  | .start | .stop | .restart => .post
  | .delete => .delete

def Verb.path (id : Bytes) : Verb → Bytes
  | .get | .delete => ascii "/sessions/" ++ id
  | .start => ascii "/sessions/" ++ id ++ ascii "/start"
  | .stop => ascii "/sessions/" ++ id ++ ascii "/stop"
  | .restart => ascii "/sessions/" ++ id ++ ascii "/restart"

inductive Command
  | create (options : List CreateOption)
  | list (urls : List Bytes)
  | session (verb : Verb) (id : Bytes) (urls : List Bytes)
  deriving DecidableEq

def urlArgs (urls : List Bytes) : List Bytes := urls.flatMap fun url => [ascii "--url", url]

def Command.args : Command → List Bytes
  | .create options => ascii "sessions" :: ascii "create" :: options.flatMap CreateOption.args
  | .list urls => ascii "sessions" :: ascii "list" :: urlArgs urls
  | .session verb id urls => ascii "sessions" :: verb.word :: id :: urlArgs urls

/-- The last option of a kind counts. -/
def Command.options : Command → CreateOptions
  | .create options => options.foldl CreateOption.apply ⟨[], [], defaultUrl⟩
  | .list urls | .session _ _ urls => ⟨[], [], urls.getLastD defaultUrl⟩

section

variable (world : World)

def Command.request (command : Command) : Except Bytes CliRequest :=
  match command with
  | .create _ =>
    if command.options.filePath = [] then .error (ascii "create requires --file")
    else do
      let server ← makeClient command.options.url
      let grc ← readFile world command.options.filePath
      return ⟨server, .post, ascii "/sessions", ← world.dump (createBody command.options.name grc)⟩
  | .list _ => do return ⟨← makeClient command.options.url, .get, ascii "/sessions", []⟩
  | .session verb id _ => do return ⟨← makeClient command.options.url, verb.method, verb.path id, []⟩

def replyJson (response : Option Reply) : Except Bytes Json := do
  let checked ← requireResponse response
  if 200 ≤ checked.status ∧ checked.status < 300 then
    if checked.body = [] then return .null else parseSuccessJson world checked
  else throwStatus world response checked

def showJson (response : Option Reply) : Except Bytes Bytes := do
  let body ← replyJson world response
  return (← world.dumpIndented body) ++ [10]

def replyNoContent (response : Option Reply) : Except Bytes Unit := do
  let checked ← requireResponse response
  if checked.status = 204 then return () else throwStatus world response checked

def showDeleted (id : Bytes) (response : Option Reply) : Except Bytes Bytes := do
  replyNoContent world response
  return ascii "deleted " ++ id ++ [10]

def Command.finish : Command → Option Reply → Except Bytes Bytes
  | .session .delete id _, response => showDeleted world id response
  | _, response => showJson world response

def Command.outcome (command : Command) : Outcome :=
  match command.request world with
  | .error what => ⟨1, [], cString what ++ [10], []⟩
  | .ok request =>
    match command.finish world (world.respond request) with
    | .error what => ⟨1, [], cString what ++ [10], [request]⟩
    | .ok out => ⟨0, out, [], [request]⟩

end

variable {world : World} {α β : Type} {args : List Bytes}

/-! ### Actions -/

theorem CliAction.ofExcept_bind (x : Except Bytes α) (f : α → CliAction β) :
    CliAction.ofExcept x >>= f = match x with | .error what => ⟨[], .error what⟩ | .ok a => f a := by
  cases x <;> rfl

theorem CliAction.sent_bind (request : List CliRequest) (x : Except Bytes α) (f : α → Except Bytes β) :
    (⟨request, x⟩ : CliAction α) >>= (fun a => .ofExcept (f a)) = ⟨request, x >>= f⟩ := by
  cases x with
  | error what => rfl
  | ok a => exact congrArg (CliAction.mk · _) (List.append_nil request)

theorem performRequest_eq {server : ParsedUrl} {method : HttpMethod} {path : Bytes} {body : Option Json} {payload : Bytes}
    (h : requestPayload world method body = .ok payload) :
    performRequest world server method path body =
      ⟨[⟨server, method, path, payload⟩], .ok (world.respond ⟨server, method, path, payload⟩)⟩ := by
  unfold performRequest
  rw [h, CliAction.ofExcept_bind]

theorem requestJson_eq {server : ParsedUrl} {method : HttpMethod} {path : Bytes} {body : Option Json} {payload : Bytes}
    (h : requestPayload world method body = .ok payload) :
    requestJson world server method path body =
      ⟨[⟨server, method, path, payload⟩], replyJson world (world.respond ⟨server, method, path, payload⟩)⟩ := by
  unfold requestJson
  rw [performRequest_eq h]
  refine Eq.trans (congrArg _ (funext fun response => ?_)) (CliAction.sent_bind _ (.ok _) (replyJson world))
  unfold replyJson
  cases response with
  | none => rfl
  | some checked =>
    rw [requireResponse, CliAction.ofExcept_bind]
    dsimp only [bind, Except.bind]
    split
    · split <;> rfl
    · rfl

theorem requestJson_unsent {server : ParsedUrl} {method : HttpMethod} {path : Bytes} {body : Option Json} {what : Bytes}
    (h : requestPayload world method body = .error what) : requestJson world server method path body = ⟨[], .error what⟩ := by
  unfold requestJson performRequest
  rw [h]
  rfl

theorem requestNoContent_eq {server : ParsedUrl} {path : Bytes} :
    requestNoContent world server .delete path =
      ⟨[⟨server, .delete, path, []⟩], replyNoContent world (world.respond ⟨server, .delete, path, []⟩)⟩ := by
  unfold requestNoContent
  rw [performRequest_eq rfl]
  refine Eq.trans (congrArg _ (funext fun response => ?_)) (CliAction.sent_bind _ (.ok _) (replyNoContent world))
  unfold replyNoContent
  cases response with
  | none => rfl
  | some checked =>
    rw [requireResponse, CliAction.ofExcept_bind]
    dsimp only [bind, Except.bind]
    split <;> rfl

theorem printJson_eq {action : CliAction Json} {requests : List CliRequest} {response : Option Reply}
    (h : action = ⟨requests, replyJson world response⟩) : printJson world action = ⟨requests, showJson world response⟩ := by
  subst h
  unfold printJson
  refine Eq.trans (congrArg _ (funext fun body => ?_)) (CliAction.sent_bind _ _ fun body => do
    return (← world.dumpIndented body) ++ [10])
  cases world.dumpIndented body <;> rfl

/-! ### Arguments -/

theorem parseCommonOptions_urlArgs (url : Bytes) (urls : List Bytes) :
    parseCommonOptions url (urlArgs urls) = .ok (urls.getLastD url) := by
  induction urls generalizing url with
  | nil => rfl
  | cons value urls ih =>
    rw [List.getLastD_cons]
    exact (if_pos rfl).trans (ih value)

theorem urlArgs_of_ok {url url' : Bytes} (h : parseCommonOptions url args = .ok url') : ∃ urls, args = urlArgs urls := by
  fun_induction parseCommonOptions url args with
  | case1 => exact ⟨[], rfl⟩
  | case2 | case3 | case5 => cases h
  | case4 url value args ih =>
    obtain ⟨urls, rfl⟩ := ih h
    exact ⟨value :: urls, rfl⟩

theorem options_apart : ascii "--name" ≠ ascii "--file" ∧ ascii "--url" ≠ ascii "--file" ∧ ascii "--url" ≠ ascii "--name" := by
  decide

theorem parseCreateOptions_args (acc : CreateOptions) (options : List CreateOption) :
    parseCreateOptions acc (options.flatMap CreateOption.args) = .ok (options.foldl CreateOption.apply acc) := by
  obtain ⟨hname, hurl, hurl'⟩ := options_apart
  induction options generalizing acc with
  | nil => rfl
  | cons option options ih =>
    rw [List.foldl_cons, ← ih]
    cases option with
    | file value => exact if_pos rfl
    | name value => exact (if_neg hname).trans (if_pos rfl)
    | url value => exact (if_neg hurl).trans ((if_neg hurl').trans (if_pos rfl))

theorem createArgs_of_ok {acc acc' : CreateOptions} (h : parseCreateOptions acc args = .ok acc') :
    ∃ options : List CreateOption, args = options.flatMap CreateOption.args := by
  fun_induction parseCreateOptions acc args with
  | case1 => exact ⟨[], rfl⟩
  | case2 | case3 | case4 | case5 | case9 => cases h
  | case6 acc value args ih =>
    obtain ⟨options, rfl⟩ := ih h
    exact ⟨.file value :: options, rfl⟩
  | case7 acc value args hfile ih =>
    obtain ⟨options, rfl⟩ := ih h
    exact ⟨.name value :: options, rfl⟩
  | case8 acc value args hfile hname ih =>
    obtain ⟨options, rfl⟩ := ih h
    exact ⟨.url value :: options, rfl⟩

/-! ### Commands -/

theorem outcome_ofExcept_bind {x : Except Bytes α} {f : α → CliAction Bytes} :
    (CliAction.ofExcept x >>= f).outcome =
      match x with | .error what => ⟨1, [], cString what ++ [10], []⟩ | .ok a => (f a).outcome := by
  cases x <;> rfl

theorem outcome_sent {request : CliRequest} {result : Except Bytes Bytes} :
    (⟨[request], result⟩ : CliAction Bytes).outcome =
      match result with | .error what => ⟨1, [], cString what ++ [10], [request]⟩ | .ok out => ⟨0, out, [], [request]⟩ := by
  cases result <;> rfl

theorem run_sessions (command : Bytes) (args : List Bytes) :
    run world (ascii "sessions" :: command :: args) = (runCommand world command args).outcome := by
  rw [run, if_pos rfl]

theorem makeClient_urlArgs (urls : List Bytes) :
    (do makeClient (← parseCommonOptions defaultUrl (urlArgs urls))) = makeClient (urls.getLastD defaultUrl) := by
  rw [parseCommonOptions_urlArgs]
  rfl

theorem runCommand_list (args : List Bytes) :
    runCommand world (ascii "list") args = (do
      let client ← .ofExcept (do makeClient (← parseCommonOptions defaultUrl args))
      printJson world (requestJson world client .get (ascii "/sessions") none)) :=
  (if_neg (by decide)).trans (if_pos rfl)

theorem run_list (urls : List Bytes) : run world (Command.list urls).args = (Command.list urls).outcome world := by
  rw [Command.args, run_sessions, runCommand_list, outcome_ofExcept_bind, makeClient_urlArgs, Command.outcome, Command.request,
    Command.options]
  cases makeClient (urls.getLastD defaultUrl) with
  | error what => rfl
  | ok client =>
    dsimp only
    rw [printJson_eq (requestJson_eq rfl), outcome_sent]
    rfl

theorem Verb.isCommand (verb : Verb) : verb.word = ascii "get" ∨ verb.word = ascii "start" ∨ verb.word = ascii "stop" ∨
    verb.word = ascii "restart" ∨ verb.word = ascii "delete" := by
  cases verb <;> decide

theorem Verb.other (verb : Verb) : verb.word ≠ ascii "create" ∧ verb.word ≠ ascii "list" := by
  cases verb <;> decide

theorem runCommand_verb (verb : Verb) (id : Bytes) (args : List Bytes) :
    runCommand world verb.word (id :: args) = (do
      let client ← .ofExcept (do makeClient (← parseCommonOptions defaultUrl args))
      if verb = .delete then
        requestNoContent world client .delete (verb.path id)
        return ascii "deleted " ++ id ++ [10]
      else printJson world (requestJson world client verb.method (verb.path id) none)) := by
  unfold runCommand
  rw [if_neg verb.other.1, if_neg verb.other.2, if_pos verb.isCommand]
  cases verb with
  | get => rfl
  | start | stop | restart | delete => rfl

theorem run_session (verb : Verb) (id : Bytes) (urls : List Bytes) :
    run world (Command.session verb id urls).args = (Command.session verb id urls).outcome world := by
  rw [Command.args, run_sessions, runCommand_verb, outcome_ofExcept_bind, makeClient_urlArgs, Command.outcome,
    Command.request, Command.options]
  cases makeClient (urls.getLastD defaultUrl) with
  | error what => rfl
  | ok client =>
    dsimp only
    cases verb with
    | delete =>
      rw [if_pos rfl, requestNoContent_eq]
      refine (congrArg _ (CliAction.sent_bind _ _ fun _ => .ok _)).trans ?_
      exact outcome_sent
    | get | start | stop | restart =>
      rw [if_neg nofun, printJson_eq (requestJson_eq rfl), outcome_sent]
      rfl

theorem runCommand_create (args : List Bytes) :
    runCommand world (ascii "create") args = (do
      let options ← .ofExcept (parseCreateOptions ⟨[], [], defaultUrl⟩ args)
      if options.filePath = [] then .ofExcept (.error (ascii "create requires --file"))
      let client ← .ofExcept (makeClient options.url)
      let body := createBody options.name (← .ofExcept (readFile world options.filePath))
      printJson world (requestJson world client .post (ascii "/sessions") (some body))) := if_pos rfl

theorem run_create (options : List CreateOption) :
    run world (Command.create options).args = (Command.create options).outcome world := by
  rw [Command.args, run_sessions, runCommand_create, outcome_ofExcept_bind, parseCreateOptions_args, Command.outcome,
    Command.request, show (Command.create options).options = options.foldl CreateOption.apply ⟨[], [], defaultUrl⟩ from rfl]
  generalize options.foldl CreateOption.apply ⟨[], [], defaultUrl⟩ = read
  dsimp only
  split
  · rfl
  · rw [outcome_ofExcept_bind]
    cases makeClient read.url with
    | error what => rfl
    | ok client =>
      dsimp only
      rw [outcome_ofExcept_bind]
      cases readFile world read.filePath with
      | error what => rfl
      | ok grc =>
        dsimp only
        cases hdump : world.dump (createBody read.name grc) with
        | error what =>
          have hpayload : requestPayload world .post (some (createBody read.name grc)) = .error what := hdump
          rw [requestJson_unsent hpayload]
          dsimp only [bind, Except.bind]
          rw [hdump]
          rfl
        | ok payload =>
          have hpayload : requestPayload world .post (some (createBody read.name grc)) = .ok payload := hdump
          rw [printJson_eq (requestJson_eq hpayload), outcome_sent]
          dsimp only [bind, Except.bind]
          rw [hdump]
          rfl

theorem CreateOption.args_injective {option option' : CreateOption} {rest rest' : List Bytes}
    (h : option.args ++ rest = option'.args ++ rest') : option = option' ∧ rest = rest' := by
  obtain ⟨hname, hurl, hurl'⟩ := options_apart
  cases option <;> cases option' <;>
    simp_all [CreateOption.args, hname.symm, hurl.symm, hurl'.symm]

theorem createArgs_injective {options options' : List CreateOption}
    (h : options.flatMap CreateOption.args = options'.flatMap CreateOption.args) : options = options' := by
  induction options generalizing options' with
  | nil =>
    cases options' with
    | nil => rfl
    | cons option' options' => cases option' <;> cases h
  | cons option options ih =>
    cases options' with
    | nil => cases option <;> cases h
    | cons option' options' =>
      rw [List.flatMap_cons, List.flatMap_cons] at h
      obtain ⟨rfl, hrest⟩ := CreateOption.args_injective h
      rw [ih hrest]

theorem urlArgs_injective {urls urls' : List Bytes} (h : urlArgs urls = urlArgs urls') : urls = urls' := by
  induction urls generalizing urls' with
  | nil =>
    cases urls' with
    | nil => rfl
    | cons url' urls' => cases h
  | cons url urls ih =>
    cases urls' with
    | nil => cases h
    | cons url' urls' =>
      have h : ascii "--url" :: url :: urlArgs urls = ascii "--url" :: url' :: urlArgs urls' := h
      obtain ⟨rfl, hrest⟩ := List.cons.inj (List.cons.inj h).2
      rw [ih hrest]

theorem Verb.word_injective {verb verb' : Verb} (h : verb.word = verb'.word) : verb = verb' := by
  revert h
  cases verb <;> cases verb' <;> decide

theorem Command.args_injective {c c' : Command} (h : c.args = c'.args) : c = c' := by
  have hlist : ascii "list" ≠ ascii "create" := by decide
  cases c with
  | create options =>
    cases c' with
    | create options' => rw [createArgs_injective (List.cons.inj (List.cons.inj h).2).2]
    | list urls => exact absurd (List.cons.inj (List.cons.inj h).2).1.symm hlist
    | session verb id urls => exact absurd (List.cons.inj (List.cons.inj h).2).1.symm verb.other.1
  | list urls =>
    cases c' with
    | create options' => exact absurd (List.cons.inj (List.cons.inj h).2).1 hlist
    | list urls' => rw [urlArgs_injective (List.cons.inj (List.cons.inj h).2).2]
    | session verb id urls' => exact absurd (List.cons.inj (List.cons.inj h).2).1.symm verb.other.2
  | session verb id urls =>
    cases c' with
    | create options' => exact absurd (List.cons.inj (List.cons.inj h).2).1 verb.other.1
    | list urls' => exact absurd (List.cons.inj (List.cons.inj h).2).1 verb.other.2
    | session verb' id' urls' =>
      obtain ⟨hword, h⟩ := List.cons.inj (List.cons.inj h).2
      obtain ⟨rfl, hurls⟩ := List.cons.inj h
      rw [Verb.word_injective hword, urlArgs_injective hurls]

def Outcome.Refusal (outcome : Outcome) : Prop :=
  outcome.exitCode = 1 ∧ outcome.out = [] ∧ outcome.err ≠ [] ∧ outcome.requests = []

theorem refusal_of_error {what : Bytes} {action : CliAction Bytes} (h : action = ⟨[], .error what⟩) :
    action.outcome.Refusal := by
  subst h
  exact ⟨rfl, rfl, List.append_ne_nil_of_right_ne_nil _ (List.cons_ne_nil _ _), rfl⟩

theorem exists_verb {word : Bytes} (h : word = ascii "get" ∨ word = ascii "start" ∨ word = ascii "stop" ∨
    word = ascii "restart" ∨ word = ascii "delete") : ∃ verb : Verb, word = verb.word := by
  rcases h with rfl | rfl | rfl | rfl | rfl
  · exact ⟨.get, rfl⟩
  · exact ⟨.start, rfl⟩
  · exact ⟨.stop, rfl⟩
  · exact ⟨.restart, rfl⟩
  · exact ⟨.delete, rfl⟩

theorem run_other (h : ∀ c : Command, c.args ≠ args) : (run world args).Refusal := by
  have husage : (⟨1, [], usage, []⟩ : Outcome).Refusal := ⟨rfl, rfl, by decide +kernel, rfl⟩
  match args with
  | [] | [_] => exact husage
  | sessions :: command :: args =>
    by_cases hsessions : sessions = ascii "sessions"
    · subst hsessions
      rw [run_sessions]
      by_cases hcreate : command = ascii "create"
      · subst hcreate
        rw [runCommand_create]
        cases hoptions : parseCreateOptions ⟨[], [], defaultUrl⟩ args with
        | error what => exact refusal_of_error rfl
        | ok options =>
          obtain ⟨options, rfl⟩ := createArgs_of_ok hoptions
          exact absurd rfl (h (.create options))
      by_cases hlist : command = ascii "list"
      · subst hlist
        rw [runCommand_list]
        cases hurl : parseCommonOptions defaultUrl args with
        | error what => exact refusal_of_error rfl
        | ok url =>
          obtain ⟨urls, rfl⟩ := urlArgs_of_ok hurl
          exact absurd rfl (h (.list urls))
      by_cases hverb : command = ascii "get" ∨ command = ascii "start" ∨ command = ascii "stop" ∨
          command = ascii "restart" ∨ command = ascii "delete"
      · obtain ⟨verb, rfl⟩ := exists_verb hverb
        match args with
        | [] => exact refusal_of_error ((if_neg hcreate).trans ((if_neg hlist).trans (if_pos hverb)))
        | id :: args =>
          rw [runCommand_verb]
          cases hurl : parseCommonOptions defaultUrl args with
          | error what => exact refusal_of_error rfl
          | ok url =>
            obtain ⟨urls, rfl⟩ := urlArgs_of_ok hurl
            exact absurd rfl (h (.session verb id urls))
      · exact refusal_of_error ((if_neg hcreate).trans ((if_neg hlist).trans (if_neg hverb)))
    · rw [run, if_neg hsessions]
      exact husage

/-- The argument lists that are commands are told apart from all others; each of them stands for one command and
goes as that command does, and the others are refused before anything is sent. -/
theorem arguments_decide (world : World) (args : List Bytes) :
    (∃! c : Command, c.args = args ∧ run world args = c.outcome world) ∨
      (∀ c : Command, c.args ≠ args) ∧ (run world args).Refusal := by
  by_cases h : ∃ c : Command, c.args = args
  · obtain ⟨c, rfl⟩ := h
    refine .inl ⟨c, ⟨rfl, ?_⟩, fun c' hc' => Command.args_injective hc'.1⟩
    cases c with
    | create options => exact run_create options
    | list urls => exact run_list urls
    | session verb id urls => exact run_session verb id urls
  · have hother : ∀ c : Command, c.args ≠ args := fun c hc => h ⟨c, hc⟩
    exact .inr ⟨hother, run_other hother⟩

end Gr4ControlPlane.Cli
