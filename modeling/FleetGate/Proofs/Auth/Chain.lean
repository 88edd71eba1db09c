import FleetGate.Auth.Shared
import FleetGate.Proofs.Auth.Stages
import FleetGate.Proofs.Token.Lifetime

/-!
# Chains of runs

In a chain every run starts from the context of the last one that succeeded. One run either fails
and changes nothing, or makes a child of its base and leaves all dictionaries as they were. A whole
chain therefore ends with the three values of its last success laid over the context that it began
with: an account claim of an earlier token does not survive a later token without one. Whatever
served as a base on the way still answers as it did.
-/

namespace FleetGate

namespace Dictionaries

variable {dictionaries after : Dictionaries} {base child : Address}

/-- A context that is kept at an address. -/
def Knows (dictionaries : Dictionaries) (address : Address) : Prop :=
  ∃ entries, dictionaries.get? address = some entries

theorem Knows.mono (known : dictionaries.Knows base) (keeps : dictionaries.Keeps after) :
    after.Knows base := by
  rcases known with ⟨entries, found⟩
  exact ⟨entries, keeps base entries found⟩

/-- A context that is kept answers the same while dictionaries are only added. -/
theorem contextAt_of_keeps (known : dictionaries.Knows base) (keeps : dictionaries.Keeps after) :
    after.contextAt base = dictionaries.contextAt base := by
  rcases known with ⟨entries, found⟩
  simp only [contextAt, Dictionaries.entries, found, keeps base entries found]

/-- A new dictionary holds its entries. -/
theorem entries_add (dictionaries : Dictionaries) (entries : Entries Value) :
    (dictionaries.add entries).1.entries (dictionaries.add entries).2 = entries := by
  have found : (dictionaries.add entries).1.get? (dictionaries.add entries).2 = some entries :=
    Objects.get?_make_next dictionaries entries
  rw [Dictionaries.entries, found, Option.getD_some]

/-- A new context answers what the dictionary holds from which it is made. -/
theorem get?_makeContext (dictionaries : Dictionaries) (source : Address) :
    (dictionaries.makeContext source).1.get? (dictionaries.makeContext source).2 =
      some (dictionaries.entries source) :=
  Objects.get?_make_next dictionaries _

/-- A child is made in two steps, from a dictionary with all its values. -/
theorem extend_eq (dictionaries : Dictionaries) (base : Address) (added : Entries Value) :
    dictionaries.extend base added =
      (dictionaries.add ((dictionaries.entries base).putAll added)).1.makeContext
        (dictionaries.add ((dictionaries.entries base).putAll added)).2 :=
  rfl

theorem keeps_extend (dictionaries : Dictionaries) (base : Address) (added : Entries Value) :
    dictionaries.Keeps (dictionaries.extend base added).1 := by
  rw [extend_eq]
  apply Objects.Keeps.trans
  · exact Objects.keeps_make dictionaries ((dictionaries.entries base).putAll added)
  · exact Objects.keeps_make _ _

/-- A child holds the values of its base and more. -/
theorem get?_extend (dictionaries : Dictionaries) (base : Address) (added : Entries Value) :
    (dictionaries.extend base added).1.get? (dictionaries.extend base added).2 =
      some ((dictionaries.contextAt base).extend added).entries := by
  rw [extend_eq, get?_makeContext, entries_add]
  rfl

theorem knows_attach (dictionaries : Dictionaries) (base : Address)
    (principal identifier account : Value) :
    (dictionaries.attach base principal identifier account).1.Knows
      (dictionaries.attach base principal identifier account).2 :=
  ⟨_, get?_extend dictionaries base _⟩

theorem keeps_attach (dictionaries : Dictionaries) (base : Address)
    (principal identifier account : Value) :
    dictionaries.Keeps (dictionaries.attach base principal identifier account).1 :=
  keeps_extend dictionaries base _

theorem contextAt_attach (dictionaries : Dictionaries) (base : Address)
    (principal identifier account : Value) :
    (dictionaries.attach base principal identifier account).1.contextAt
        (dictionaries.attach base principal identifier account).2 =
      (dictionaries.contextAt base).attach principal identifier account := by
  have found := get?_extend dictionaries base
    [(Context.principalKey, principal), (Context.identifierKey, identifier),
      (Context.accountKey, account)]
  simp only [contextAt, Dictionaries.entries, attach] at found ⊢
  rw [found]
  rfl

end Dictionaries

namespace Pipeline

variable {pipeline : Pipeline} {now : Int} {authorization : Option Text}
  {dictionaries : Dictionaries} {base : Address}

/-- A run over a context that is an object has the outcome and the trace of a run over what the
context answers. -/
theorem runAt_eq_run (pipeline : Pipeline) (now : Int) (authorization : Option Text)
    (dictionaries : Dictionaries) (base : Address) :
    (pipeline.runAt now authorization dictionaries base).2.map
        (·.map (pipeline.runAt now authorization dictionaries base).1.contextAt) =
      pipeline.run now authorization (dictionaries.contextAt base) := by
  unfold runAt examine run
  cases identify pipeline.kind pipeline.secret now authorization with
  | error raised => rfl
  | ok identity =>
      dsimp only
      cases (Resolution.resolve pipeline.stores identity.identifier pipeline.kind).result with
      | error raised => rfl
      | ok principal =>
          simp only [Traced.map, Except.map, Dictionaries.contextAt_attach]

/-- A run that fails leaves all dictionaries as they were. -/
theorem runAt_of_error {raised : Raised}
    (failed : (pipeline.runAt now authorization dictionaries base).2.result = .error raised) :
    (pipeline.runAt now authorization dictionaries base).1 = dictionaries := by
  unfold runAt at failed ⊢
  cases admitted : (pipeline.examine now authorization).result with
  | error own => simp only [admitted]
  | ok pair => simp [admitted] at failed

/-- A run that succeeds only adds dictionaries, one of them for its context. -/
theorem runAt_of_ok {child : Address}
    (succeeded : (pipeline.runAt now authorization dictionaries base).2.result = .ok child) :
    dictionaries.Keeps (pipeline.runAt now authorization dictionaries base).1 ∧
      (pipeline.runAt now authorization dictionaries base).1.Knows child := by
  unfold runAt at succeeded ⊢
  cases admitted : (pipeline.examine now authorization).result with
  | error own => simp [admitted] at succeeded
  | ok pair =>
      simp only [admitted, Except.ok.injEq] at succeeded ⊢
      subst succeeded
      exact ⟨Dictionaries.keeps_attach _ _ _ _ _, Dictionaries.knows_attach _ _ _ _ _⟩

end Pipeline

namespace Attempt

/-- The pipeline of an attempt admits a record for the token that is shown to it. -/
def Succeeds (attempt : Attempt) (token : Text) (claims : Entries Json) (identifier : Text)
    (record : Value) : Prop :=
  attempt.pipeline.Admits attempt.now attempt.authorization token claims identifier record

/-- The pipeline of an attempt admits nothing. -/
def Fails (attempt : Attempt) : Prop :=
  ∀ token claims identifier record, ¬ attempt.Succeeds token claims identifier record

end Attempt

namespace Chain

variable {chain : Chain} {attempt : Attempt}

/-- The context that the next run starts from is kept. -/
def IsRooted (chain : Chain) : Prop :=
  chain.dictionaries.Knows chain.base

theorem run_append (chain : Chain) (front back : List Attempt) :
    chain.run (front ++ back) = (chain.run front).run back :=
  List.foldl_append

theorem run_cons (chain : Chain) (attempt : Attempt) (rest : List Attempt) :
    chain.run (attempt :: rest) = (chain.step attempt).1.run rest :=
  rfl

/-- What comes out of the run of a step is what a run over the context of the chain gives. -/
theorem step_eq_run (chain : Chain) (attempt : Attempt) :
    (chain.step attempt).2.map (·.map (chain.step attempt).1.dictionaries.contextAt) =
      attempt.pipeline.run attempt.now attempt.authorization chain.context := by
  rw [context, ← Pipeline.runAt_eq_run]
  unfold step
  dsimp only
  split <;> rfl

/-- A run that succeeds hands its context on. -/
theorem step_of_succeeds {token identifier : Text} {claims : Entries Json} {record : Value}
    (succeeds : attempt.Succeeds token claims identifier record) :
    (chain.step attempt).2.result = .ok (chain.step attempt).1.base ∧
      (chain.step attempt).1.context = chain.context.attach record (.data (.string identifier))
        (.data (Pipeline.accountOf claims)) := by
  have outcome := step_eq_run chain attempt
  have admitted := (@Pipeline.run_eq_ok_iff _ _ _ chain.context _).2
    ⟨token, claims, identifier, record, succeeds, rfl⟩
  rw [← outcome] at admitted
  unfold step at admitted ⊢
  dsimp only at admitted ⊢
  cases result : (attempt.pipeline.runAt attempt.now attempt.authorization chain.dictionaries
    chain.base).2.result with
  | error raised => simp [result, Traced.map, Except.map] at admitted
  | ok child =>
      simp only [result, Traced.map, Except.map, Except.ok.injEq] at admitted ⊢
      exact ⟨trivial, admitted⟩

/-- A run that fails changes nothing. -/
theorem step_of_fails (fails : attempt.Fails) (chain : Chain) :
    (∃ raised, (chain.step attempt).2.result = .error raised) ∧
      (chain.step attempt).1 = chain := by
  have outcome := step_eq_run chain attempt
  cases result : (attempt.pipeline.runAt attempt.now attempt.authorization chain.dictionaries
    chain.base).2.result with
  | error raised =>
      have unchanged := Pipeline.runAt_of_error result
      simp [step, result, unchanged]
  | ok child =>
      have admitted : (attempt.pipeline.run attempt.now attempt.authorization
          chain.context).result = .ok ((chain.step attempt).1.dictionaries.contextAt child) := by
        rw [← outcome]
        simp [step, result, Traced.map, Except.map]
      rcases Pipeline.run_eq_ok_iff.1 admitted with
        ⟨token, claims, identifier, record, succeeds, _⟩
      exact absurd succeeds (fails token claims identifier record)

/-- One run keeps every dictionary, and the next base is kept too. -/
theorem step_keeps (rooted : chain.IsRooted) (attempt : Attempt) :
    chain.dictionaries.Keeps (chain.step attempt).1.dictionaries ∧
      (chain.step attempt).1.IsRooted := by
  cases result : (attempt.pipeline.runAt attempt.now attempt.authorization chain.dictionaries
    chain.base).2.result with
  | error raised =>
      have unchanged := Pipeline.runAt_of_error result
      simp only [step, result, unchanged]
      exact ⟨Objects.Keeps.refl _, rooted⟩
  | ok child =>
      simp only [step, result]
      exact Pipeline.runAt_of_ok result

/-- All runs of a chain keep every dictionary. -/
theorem run_keeps (rooted : chain.IsRooted) (attempts : List Attempt) :
    chain.dictionaries.Keeps (chain.run attempts).dictionaries ∧
      (chain.run attempts).IsRooted := by
  induction attempts generalizing chain with
  | nil => exact ⟨Objects.Keeps.refl _, rooted⟩
  | cons attempt rest ih =>
      rcases step_keeps rooted attempt with ⟨keeps, rootedNext⟩
      rcases ih rootedNext with ⟨keepsRest, rootedLast⟩
      exact ⟨keeps.trans keepsRest, rootedLast⟩

/-- Runs that all fail change nothing. -/
theorem run_of_fails {attempts : List Attempt} (fail : ∀ attempt ∈ attempts, attempt.Fails)
    (chain : Chain) : chain.run attempts = chain := by
  induction attempts with
  | nil => rfl
  | cons attempt rest ih =>
      rw [run_cons, (step_of_fails (fail attempt (by simp)) chain).2]
      exact ih fun later among => fail later (by simp [among])

/-- One run leaves all keys but three as they were. -/
theorem get?_step_other {key : Text} (notPrincipal : key ≠ Context.principalKey)
    (notIdentifier : key ≠ Context.identifierKey) (notAccount : key ≠ Context.accountKey)
    (chain : Chain) (attempt : Attempt) :
    (chain.step attempt).1.context.get? key = chain.context.get? key := by
  by_cases fails : attempt.Fails
  · rw [(step_of_fails fails chain).2]
  · unfold Attempt.Fails at fails
    push Not at fails
    rcases fails with ⟨token, claims, identifier, record, succeeds⟩
    rw [(step_of_succeeds succeeds).2, Context.get?_attach, if_neg notPrincipal,
      if_neg notIdentifier, if_neg notAccount]

theorem get?_run_other {key : Text} (notPrincipal : key ≠ Context.principalKey)
    (notIdentifier : key ≠ Context.identifierKey) (notAccount : key ≠ Context.accountKey)
    (chain : Chain) (attempts : List Attempt) :
    (chain.run attempts).context.get? key = chain.context.get? key := by
  induction attempts generalizing chain with
  | nil => rfl
  | cons attempt rest ih =>
      rw [run_cons, ih, get?_step_other notPrincipal notIdentifier notAccount]

/-- Some attempt is the last one that succeeds, or all fail. -/
theorem exists_last_success (attempts : List Attempt) :
    (∀ attempt ∈ attempts, attempt.Fails) ∨
      ∃ front attempt back, attempts = front ++ attempt :: back ∧ ¬ attempt.Fails ∧
        ∀ later ∈ back, later.Fails := by
  induction attempts using List.reverseRecOn with
  | nil => exact .inl (by simp)
  | append_singleton front last ih =>
      by_cases fails : last.Fails
      · rcases ih with allFail | ⟨early, attempt, back, rfl, succeeds, failLater⟩
        · left
          intro attempt among
          rcases List.mem_append.1 among with inFront | isLast
          · exact allFail attempt inFront
          · rwa [List.mem_singleton.1 isLast]
        · right
          refine ⟨early, attempt, back ++ [last], by simp, succeeds, ?_⟩
          intro later among
          rcases List.mem_append.1 among with inBack | isLast
          · exact failLater later inBack
          · rwa [List.mem_singleton.1 isLast]
      · exact .inr ⟨front, last, [], rfl, fails, by simp⟩

/-- Once only failures are left, the context of the chain is that of the last success. -/
theorem context_run_of_last {front back : List Attempt} {token identifier : Text}
    {claims : Entries Json} {record : Value}
    (succeeds : attempt.Succeeds token claims identifier record)
    (fail : ∀ later ∈ back, later.Fails) (chain : Chain) :
    (chain.run (front ++ attempt :: back)).context =
      (chain.run front).context.attach record (.data (.string identifier))
        (.data (Pipeline.accountOf claims)) := by
  rw [run_append, run_cons, run_of_fails fail]
  exact (step_of_succeeds succeeds).2

/-- After a chain of runs the context holds the principal, the identifier and the account of the
last success, the account being null if that token claims none. All else in it is from the context
that the chain began with. Every run is a run over the context that stands at its base, and that
base answers at the end as it did before. -/
theorem last_success_prevails (rooted : chain.IsRooted) (attempts : List Attempt) :
    ((∀ attempt ∈ attempts, attempt.Fails) ∧ chain.run attempts = chain ∨
      ∃ front attempt back token claims identifier record,
        attempts = front ++ attempt :: back ∧
          attempt.Succeeds token claims identifier record ∧ ∀ later ∈ back, later.Fails) ∧
      (∀ front attempt back token claims identifier record,
        attempts = front ++ attempt :: back →
          attempt.Succeeds token claims identifier record →
            (∀ later ∈ back, later.Fails) →
              (chain.run attempts).context.get? Context.principalKey = some record ∧
                (chain.run attempts).context.get? Context.identifierKey =
                  some (.data (.string identifier)) ∧
                (chain.run attempts).context.get? Context.accountKey =
                  some (.data ((Entries.find "account" claims).getD .null))) ∧
      (∀ key, key ≠ Context.principalKey → key ≠ Context.identifierKey →
        key ≠ Context.accountKey →
          (chain.run attempts).context.get? key = chain.context.get? key) ∧
      ∀ front attempt back, attempts = front ++ attempt :: back →
        ((chain.run front).step attempt).2.map
            (·.map ((chain.run front).step attempt).1.dictionaries.contextAt) =
          attempt.pipeline.run attempt.now attempt.authorization (chain.run front).context ∧
        (chain.run attempts).dictionaries.contextAt (chain.run front).base =
          (chain.run front).context := by
  refine ⟨?_, ?_, ?_, ?_⟩
  · rcases exists_last_success attempts with allFail | ⟨front, attempt, back, split, some, fail⟩
    · exact .inl ⟨allFail, run_of_fails allFail chain⟩
    · unfold Attempt.Fails at some
      push Not at some
      rcases some with ⟨token, claims, identifier, record, succeeds⟩
      exact .inr ⟨front, attempt, back, token, claims, identifier, record, split, succeeds, fail⟩
  · rintro front attempt back token claims identifier record rfl succeeds fail
    rw [context_run_of_last succeeds fail]
    refine ⟨?_, ?_, ?_⟩
    · rw [Context.get?_attach, if_pos rfl]
    · rw [Context.get?_attach, if_neg (by decide), if_pos rfl]
    · rw [Context.get?_attach, if_neg (by decide), if_neg (by decide), if_pos rfl]
      rfl
  · intro key notPrincipal notIdentifier notAccount
    exact get?_run_other notPrincipal notIdentifier notAccount chain attempts
  · rintro front attempt back rfl
    constructor
    · exact step_eq_run (chain.run front) attempt
    · have rootedFront := (run_keeps rooted front).2
      have keeps := (run_keeps rootedFront (attempt :: back)).1
      rw [run_append]
      exact Dictionaries.contextAt_of_keeps rootedFront keeps

/-- The payload of a user who claims an account. -/
def userPayload : List Char :=
  "\x7b\"type\":\"user\",\"user_id\":\"U1\",\"account\":\"A1\"\x7d".toList

/-- The payload of a driver who claims none. -/
def driverPayload : List Char :=
  "\x7b\"type\":\"driver\",\"driver_id\":\"D1\"\x7d".toList

/-- A minted token is shown to a pipeline whose stores find a flag for everybody. -/
def shown (kind : PrincipalKind) (payload : List Char) : Attempt :=
  ⟨⟨kind, "s", ⟨some (.constant (.found (.data (.bool true)))),
      some (.constant (.found (.data (.bool false))))⟩⟩, 0,
    some (Token.bearer (Token.mint .hs512 [115] Token.tagHeader payload))⟩

/-- Nothing is shown to a pipeline. -/
def unshown (attempt : Attempt) : Attempt :=
  { attempt with authorization := none }

theorem shown_succeeds {kind : PrincipalKind} {payload : List Char} {claims : Entries Json}
    {identifier : Text} {record : Bool}
    (object : Json.read .values (payload.map .scalar) = .ok (.object claims))
    (valid : Claims.AreValid 0 claims)
    (ofKind : Entries.find "type" claims = some (.string (Vocabulary.text kind)))
    (named : Entries.find (Text.ofString kind.identifierClaim) claims = some (.string identifier))
    (found : Resolution.Answers (shown kind payload).pipeline.stores kind identifier
      (.found (.data (.bool record)))) :
    (shown kind payload).Succeeds (Token.mint .hs512 [115] Token.tagHeader payload) claims
      identifier (.data (.bool record)) := by
  have presents : Credential.Presents (shown kind payload).authorization
      (Token.mint .hs512 [115] Token.tagHeader payload) :=
    Token.presents_bearer (by simp [Token.mint, Token.mintChars]) Token.isUnbroken_mint
  have verified : Token.verify 0 "s" (Token.mint .hs512 [115] Token.tagHeader payload) =
      .ok claims :=
    Token.verify_mint Token.isVerbatim_plain Token.read_tagHeader rfl object valid
  exact ⟨⟨presents, verified, ofKind, named⟩, found, rfl⟩

theorem unshown_fails (attempt : Attempt) : (unshown attempt).Fails := by
  intro token claims identifier record succeeds
  rcases succeeds.presents with ⟨value, given, _⟩
  cases given

/-- A user with an account, then a driver without one, then nobody: the driver remains, without
an account, and what the context held before is still in it. -/
theorem user_then_driver_prevails :
    let chain : Chain := ⟨⟨[[("trace", .data (.int 7)), ("account", .data (.string "A0"))]]⟩, 0⟩
    let attempts := [shown .user userPayload, shown .driver driverPayload,
      unshown (shown .user userPayload)]
    (chain.run attempts).context.get? "principal" = some (.data (.bool true)) ∧
      (chain.run attempts).context.get? "principal_id" = some (.data (.string "D1")) ∧
      (chain.run attempts).context.get? "account" = some (.data .null) ∧
      (chain.run attempts).context.get? "trace" = some (.data (.int 7)) ∧
      (chain.run attempts).dictionaries.contextAt 0 = chain.context := by
  intro chain attempts
  have object : Json.read .values (driverPayload.map .scalar) =
      .ok (.object [("type", .string "driver"), ("driver_id", .string "D1")]) := by
    cbv
  have succeeds : (shown .driver driverPayload).Succeeds _ _ "D1" (.data (.bool true)) :=
    shown_succeeds object (Claims.check_eq_ok_iff.1 rfl) rfl rfl ⟨_, rfl, rfl⟩
  have rooted : chain.IsRooted := ⟨_, rfl⟩
  have prevails := last_success_prevails rooted attempts
  rcases prevails with ⟨_, last, others, bases⟩
  have holds := last [shown .user userPayload] _ [unshown (shown .user userPayload)] _ _ _ _ rfl
    succeeds (by simp [unshown_fails])
  rcases holds with ⟨principal, identifier, account⟩
  refine ⟨principal, identifier, account, ?_, ?_⟩
  · exact others "trace" (by decide) (by decide) (by decide)
  · exact (bases [] _ _ rfl).2

end Chain

end FleetGate
