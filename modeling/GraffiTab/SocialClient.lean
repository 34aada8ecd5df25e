/-
This file asks whether a call of the social network answers for the user who made it.

All calls share one client object. A call sets the access token of its user on the client
and then performs its request, which the client makes with the token that was set last. So
between the two steps of a call another one can put the token of its own user there, and
the first user gets the friends or the picture of the second.

As long as a call finds no open call of another account when it sets its token, the token
on the client belongs to the account of every open call.
-/

import GraffiTab.Library.Runs
import GraffiTab.Registration

namespace GraffiTab

open Tables Runs

/-! ### The social network and its client -/

/-- What the client library does: a short-lived token is exchanged for a long-lived one or the
exchange fails, and the friends and the picture of an account are fetched. -/
structure Facebook where
  extendTokenExpiration : String → Option String
  getFriends : (account : String) → (offset limit : Int) → List String
  getPictureURL : (account : String) → (width height : Int) → String

/-- A token is exchanged for a token of the same account. -/
def Facebook.ExtendsOwn (environment : Environment) (facebook : Facebook) : Prop :=
  ∀ accessToken extendedToken, facebook.extendTokenExpiration accessToken = some extendedToken →
    environment.owner extendedToken = environment.owner accessToken

/-- The calls of `FacebookSocialNetworkService`. -/
inductive FacebookCall where
  | getFriendsList (offset limit : Int)
  | getProfilePictureUrl (width height : Int)

inductive FacebookAnswer where
  | users (graffiTabUsers : List User)
  | pictureUrl (url : String)
  | socialNetworkException (message : String)
  | thrown (thrown : Throwable)

/-- The body of the transaction in which a friend is looked up. -/
def findRegisteredFriend (environment : Environment) (friend : String) :
    Transaction (Option User) := fun store => do
  return (← findUserWithExternalProvider environment.platform .facebook friend store, store)

/-- The loop over the friends, which keeps those that are registered. -/
def registeredUsers (environment : Environment) (store : Store) :
    List String → Except Throwable (List User)
  | [] => return []
  | friend :: rest => do
      match ← (executeInTransactionWithResult (findRegisteredFriend environment friend) store).2
        with
      | some user => return user :: (← registeredUsers environment store rest)
      | none => registeredUsers environment store rest

/-- The request of the call, made for an account. -/
def FacebookCall.answerOf (environment : Environment) (facebook : Facebook) (account : String)
    (store : Store) : FacebookCall → FacebookAnswer
  | .getFriendsList offset limit =>
      match registeredUsers environment store (facebook.getFriends account offset limit) with
      | .ok graffiTabUsers => .users graffiTabUsers
      | .error thrown => .thrown thrown
  | .getProfilePictureUrl width height => .pictureUrl (facebook.getPictureURL account width height)

def FacebookCall.errorMessage : FacebookCall → String
  | .getFriendsList _ _ => "Error fetching user friends"
  | .getProfilePictureUrl _ _ => "Error fetching user profile picture"

section Steps

variable (environment : Environment) (facebook : Facebook)

/-- The request of the call, made with the token of the client. -/
def FacebookCall.perform (accessToken : Option String) (store : Store) (call : FacebookCall) :
    FacebookAnswer :=
  match accessToken.bind environment.owner with
  | some account => call.answerOf environment facebook account store
  | none => .socialNetworkException call.errorMessage

/-! ### Runs -/

/-- A call that has set its token and not yet made its request, with the link that it has read. -/
structure OpenCall where
  call : FacebookCall
  externalProvider : ExternalProvider

structure ClientState where
  store : Store
  oAuthAccessToken : Option String
  openCalls : List OpenCall

/-- A call sets its token, or the one at the position makes its request and returns; meanwhile other
requests change the database. -/
inductive ClientAction where
  | setOAuthAccessToken (user : Long) (call : FacebookCall)
  | request (position : Nat)
  | commit (store : Store)

/-- A call without a link, or whose token cannot be exchanged, throws and is over. -/
def clientStep (state : ClientState) : ClientAction → Option ClientState
  | .setOAuthAccessToken user call =>
      match findExternalProvider user .facebook state.store with
      | .ok (some externalProvider) =>
          match facebook.extendTokenExpiration externalProvider.accessToken with
          | some extendedToken =>
              some { state with
                oAuthAccessToken := some extendedToken
                openCalls := state.openCalls ++ [⟨call, externalProvider⟩] }
          | none => some state
      | _ => some state
  | .request position =>
      if position < state.openCalls.length then
        some { state with openCalls := state.openCalls.eraseIdx position }
      else none
  | .commit store => some { state with store }

/-- What the answer may hold when it is one of the account. -/
def OfAccount (account : String) (store : Store) : FacebookCall → FacebookAnswer → Prop
  | .getFriendsList offset limit, .users graffiTabUsers => ∀ user ∈ graffiTabUsers,
      ∃ friend ∈ facebook.getFriends account offset limit,
        findUserWithExternalProvider environment.platform .facebook friend store = .ok (some user)
  | .getProfilePictureUrl width height, .pictureUrl url =>
      url = facebook.getPictureURL account width height
  | .getFriendsList .., .pictureUrl _ => False
  | .getProfilePictureUrl .., .users _ => False
  | _, _ => True

/-- The answer of every call is the one of the account that its user has linked, whatever the other
calls do; in every run whose steps meet the condition. -/
def AnswersOwn (condition : ClientState → ClientAction → Prop) : Prop :=
  ∀ start state, Reaches (clientStep facebook) condition ⟨start, none, []⟩ state →
    ∀ opened ∈ state.openCalls,
      opened.call.perform environment facebook state.oAuthAccessToken state.store =
        opened.call.answerOf environment facebook opened.externalProvider.externalUserId
          state.store ∧
      OfAccount environment facebook opened.externalProvider.externalUserId state.store opened.call
        (opened.call.perform environment facebook state.oAuthAccessToken state.store)

/-- A call sets its token, which is one of the linked account, when no call of another account is
open. -/
def TokensApart (state : ClientState) : ClientAction → Prop
  | .setOAuthAccessToken user _ => ∀ externalProvider extendedToken,
      findExternalProvider user .facebook state.store = .ok (some externalProvider) →
      facebook.extendTokenExpiration externalProvider.accessToken = some extendedToken →
        environment.owner externalProvider.accessToken = some externalProvider.externalUserId ∧
          ∀ opened ∈ state.openCalls,
            opened.externalProvider.externalUserId = externalProvider.externalUserId
  | _ => True

end Steps

/-! ### Answers -/

section Answers

variable {environment : Environment} {facebook : Facebook} {account : String} {store : Store}
  {state next : ClientState}

theorem findRegisteredFriend_ok {friend : String} {found : Option User}
    (returned : (executeInTransactionWithResult (findRegisteredFriend environment friend) store).2 =
      .ok found) :
    findUserWithExternalProvider environment.platform .facebook friend store = .ok found := by
  rcases executeInTransactionWithResult_cases (findRegisteredFriend environment friend) store with
    ⟨value, after, body, same⟩ | ⟨thrown, -, same⟩
  · rw [same] at returned
    obtain rfl := Except.ok.inj returned
    obtain ⟨answer, found, rest⟩ := bind_eq_ok.mp body
    obtain ⟨rfl, -⟩ := Prod.mk.inj (Except.ok.inj rest)
    exact found
  · rw [same] at returned
    exact absurd returned nofun

/-- Only registered friends are listed. -/
theorem mem_registeredUsers {friends : List String} {graffiTabUsers : List User}
    (returned : registeredUsers environment store friends = .ok graffiTabUsers) {user : User}
    (member : user ∈ graffiTabUsers) :
    ∃ friend ∈ friends,
      findUserWithExternalProvider environment.platform .facebook friend store =
        .ok (some user) := by
  induction friends generalizing graffiTabUsers with
  | nil =>
      obtain rfl := Except.ok.inj returned
      exact absurd member List.not_mem_nil
  | cons first rest inductionHypothesis =>
      have later {listed : List User} (inRest : registeredUsers environment store rest = .ok listed)
          (isListed : user ∈ listed) : ∃ friend ∈ first :: rest,
            findUserWithExternalProvider environment.platform .facebook friend store =
              .ok (some user) := by
        obtain ⟨friend, isFriend, registered⟩ := inductionHypothesis inRest isListed
        exact ⟨friend, List.mem_cons_of_mem first isFriend, registered⟩
      rw [registeredUsers] at returned
      obtain ⟨found, answer, returned⟩ := bind_eq_ok.mp returned
      cases found with
      | none => exact later returned member
      | some registered =>
          obtain ⟨listed, inRest, same⟩ := bind_eq_ok.mp returned
          obtain rfl := Except.ok.inj same
          rcases List.mem_cons.mp member with rfl | isListed
          · exact ⟨first, List.mem_cons_self, findRegisteredFriend_ok answer⟩
          · exact later inRest isListed

/-- What is fetched for an account is of the account. -/
theorem ofAccount_answerOf (call : FacebookCall) :
    OfAccount environment facebook account store call
      (call.answerOf environment facebook account store) := by
  cases call with
  | getFriendsList offset limit =>
      rw [FacebookCall.answerOf]
      split
      · rename_i returned
        exact fun user member => mem_registeredUsers returned member
      · trivial
  | getProfilePictureUrl width height => rfl

/-! ### The token of the client -/

/-- The token on the client belongs to the account of every open call. -/
def TokenOfOpenCalls (environment : Environment) (state : ClientState) : Prop :=
  ∀ opened ∈ state.openCalls, state.oAuthAccessToken.bind environment.owner =
    some opened.externalProvider.externalUserId

theorem tokenOfOpenCalls_step {action : ClientAction} (extendsOwn : facebook.ExtendsOwn environment)
    (ofOpenCalls : TokenOfOpenCalls environment state)
    (apart : TokensApart environment facebook state action)
    (taken : clientStep facebook state action = some next) :
    TokenOfOpenCalls environment next := by
  cases action with
  | setOAuthAccessToken user call =>
      simp only [clientStep] at taken
      split at taken
      · rename_i externalProvider linked
        split at taken
        · rename_i extendedToken exchanged
          obtain rfl := Option.some.inj taken
          obtain ⟨own, sameAccount⟩ := apart externalProvider extendedToken linked exchanged
          have belongs : environment.owner extendedToken =
              some externalProvider.externalUserId :=
            (extendsOwn _ _ exchanged).trans own
          intro opened member
          rcases List.mem_append.mp member with old | new
          · exact belongs.trans (congrArg some (sameAccount opened old).symm)
          · obtain rfl := List.mem_singleton.mp new
            exact belongs
        · exact Option.some.inj taken ▸ ofOpenCalls
      · exact Option.some.inj taken ▸ ofOpenCalls
  | request position =>
      simp only [clientStep] at taken
      split at taken
      · obtain rfl := Option.some.inj taken
        exact fun opened remains => ofOpenCalls opened ((List.eraseIdx_sublist _ _).subset remains)
      · exact absurd taken nofun
  | commit store => exact Option.some.inj taken ▸ ofOpenCalls

/-- In every run in which no call sets its token while one of another account is open, and every
token belongs to the account it is stored with, each call answers for its own account. -/
theorem answersOwn_of_tokensApart (environment : Environment) (facebook : Facebook)
    (extendsOwn : facebook.ExtendsOwn environment) :
    AnswersOwn environment facebook (TokensApart environment facebook) := by
  intro start state reached opened member
  have ofOpenCalls : TokenOfOpenCalls environment state :=
    reached.invariant (TokenOfOpenCalls environment) (fun _ none => absurd none List.not_mem_nil)
      fun _ _ _ holds apart taken => tokenOfOpenCalls_step extendsOwn holds apart taken
  have same : opened.call.perform environment facebook state.oAuthAccessToken state.store =
      opened.call.answerOf environment facebook opened.externalProvider.externalUserId
        state.store := by
    rw [FacebookCall.perform, ofOpenCalls opened member]
  refine ⟨same, ?_⟩
  rw [same]
  exact ofAccount_answerOf opened.call

end Answers

/-! ### Two users at the same time -/

/-- A network that leaves tokens as they are and whose pictures are named by their accounts; the
friends of every account are alice and bob. -/
def namedFacebook : Facebook where
  extendTokenExpiration accessToken := some accessToken
  getFriends _ _ _ := ["alice", "bob"]
  getPictureURL account _ _ := account

theorem answersOwn_namedFacebook : AnswersOwn (plainEnvironment .entry) namedFacebook
    (TokensApart (plainEnvironment .entry) namedFacebook) :=
  answersOwn_of_tokensApart (plainEnvironment .entry) namedFacebook
    fun _ _ same => congrArg _ (Option.some.inj same).symm

/-- Alice and bob, each with the account of the same name. -/
def linkedStore : Store :=
  { Store.empty with
    users := (Table.empty.insert (plainUser 0 "alice")).insert (plainUser 0 "bob")
    externalProviders :=
      (Table.empty.insert ⟨0, 1, .facebook, "alice", "alice"⟩).insert
        ⟨0, 2, .facebook, "bob", "bob"⟩ }

/-- Both calls have set their tokens before the first one makes its request. -/
def bothOpen : ClientState where
  store := linkedStore
  oAuthAccessToken := some "bob"
  openCalls :=
    [⟨.getProfilePictureUrl 250 250, ⟨1, 1, .facebook, "alice", "alice"⟩⟩,
      ⟨.getProfilePictureUrl 250 250, ⟨2, 2, .facebook, "bob", "bob"⟩⟩]

/-- Alice gets the picture of bob. -/
theorem not_answersOwn : ¬ AnswersOwn (plainEnvironment .entry) namedFacebook unrestricted := by
  intro answersOwn
  have reached : run (clientStep namedFacebook) ⟨linkedStore, none, []⟩
      [.setOAuthAccessToken 1 (.getProfilePictureUrl 250 250),
        .setOAuthAccessToken 2 (.getProfilePictureUrl 250 250)] = some bothOpen := rfl
  obtain ⟨-, own⟩ := answersOwn linkedStore bothOpen (reaches_of_run_unrestricted _ reached)
    _ List.mem_cons_self
  have isAlice : "bob" = "alice" := own
  exact absurd isAlice (by decide)

end GraffiTab
