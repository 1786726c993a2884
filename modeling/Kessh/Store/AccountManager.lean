import Kessh.Lib.Labelled
import Kessh.Store.Model

set_option autoImplicit false

-- The account: its calls interleaved at their awaits.
namespace Kessh.AccountManager

open Ecma (JsString js)
open Labelled

structure HuaweiAccount where
  openId : JsString
  displayName : JsString
  avatarUri : Option JsString
  unionId : Option JsString
deriving DecidableEq, Repr

-- The fields of the service's `data` that are read.
structure UserData where
  openID : Option JsString
  nickName : Option JsString
  avatarUri : Option JsString
  unionID : Option JsString

-- What executeRequest comes to; `empty` is no response, and `noData` one without data.
inductive Response where
  | rejected (message : JsString)
  | empty
  | noData
  | data (user : UserData)

def loginAccount : Response → Except JsString HuaweiAccount
  | .rejected message => .error message
  | .empty => .error (js "登录失败：未获取到授权数据")
  | .noData => .error (js "登录失败：响应数据格式错误")
  | .data user =>
      if truthy user.openID then
        .ok {
          openId := user.openID.getD []
          displayName := if truthy user.nickName then user.nickName.getD [] else js "华为用户"
          avatarUri := user.avatarUri
          unionId := user.unionID }
      else .error (js "登录失败：未获取到用户ID")

-- A field of the response, or else of the current account; null has none.
def orCurrent (field : Option JsString) (current : Option HuaweiAccount) (read : HuaweiAccount → Option JsString) :
    Option (Option JsString) :=
  if truthy field then some field else current.map read

def refreshed (user : UserData) (current : Option HuaweiAccount) : Option HuaweiAccount := do
  let openId ← orCurrent user.openID current fun account => some account.openId
  let displayName ← orCurrent user.nickName current fun account => some account.displayName
  let avatarUri ← orCurrent user.avatarUri current HuaweiAccount.avatarUri
  let unionId ← orCurrent user.unionID current HuaweiAccount.unionId
  return { openId := openId.getD [], displayName := displayName.getD [], avatarUri, unionId }

def silentAccount (current : Option HuaweiAccount) : Response → Option HuaweiAccount
  | .data user => refreshed user current
  | _ => none

inductive Reply where
  | account (value : Option HuaweiAccount)
  | void
  | thrown (message : JsString)

-- Where a call waits, and whether what it waits for has taken effect on the preferences. A flush
-- has what the call is to answer.
inductive Stage where
  | requesting
  | putting (account : HuaweiAccount) (performed : Bool)
  | deleting (performed : Bool)
  | flushing (reply : Reply) (performed : Bool)
  | finished (reply : Reply)

inductive Kind where
  | login
  | silentLogin
  | logout
deriving DecidableEq, Repr

structure Call where
  kind : Kind
  stage : Stage

-- `writer` is ghost: the call that wrote the account, if it is one of the run.
structure Held where
  account : HuaweiAccount
  writer : Option Nat := none

-- What the instance has for KEY_ACCOUNT, and what its file has. A JSON text is kept by its account.
structure Preferences where
  cache : Option Held
  file : Option Held

structure Accounts where
  currentAccount : Option Held
  prefStore : Option Preferences
  calls : List Call := []

def Accounts.cache (s : Accounts) : Option Held := s.prefStore.bind Preferences.cache

def Accounts.file (s : Accounts) : Option Held := s.prefStore.bind Preferences.file

def Accounts.isLoggedIn (s : Accounts) : Bool := s.currentAccount.isSome

-- The operations take effect in any order.
inductive Event where
  | login
  | silentLogin
  | logout
  | response (index : Nat) (response : Response)
  | performed (index : Nat)
  | resumed (index : Nat)
  | rejected (index : Nat)

def Preferences.put (index : Nat) (account : HuaweiAccount) (p : Preferences) : Preferences :=
  { p with cache := some ⟨account, some index⟩ }

def Preferences.delete (p : Preferences) : Preferences := { p with cache := none }

def Preferences.flush (p : Preferences) : Preferences := { p with file := p.cache }

def Accounts.begin (s : Accounts) (kind : Kind) (stage : Stage) : Accounts := { s with calls := s.calls ++ [⟨kind, stage⟩] }

def Accounts.advance (s : Accounts) (index : Nat) (kind : Kind) (stage : Stage) : Accounts :=
  { s with calls := s.calls.set index ⟨kind, stage⟩ }

-- What saveAccount begins with, after currentAccount is set.
def Accounts.saveAccount (s : Accounts) (index : Nat) (kind : Kind) (account : HuaweiAccount) : Accounts :=
  { s with currentAccount := some ⟨account, some index⟩ }.advance index kind <|
    if s.prefStore.isSome then .putting account false
    else .finished (.account (some account))

def answered (s : Accounts) (index : Nat) (response : Response) : Kind → Option Accounts
  | .login =>
      match loginAccount response with
      | .ok account => some (s.saveAccount index .login account)
      | .error message => some (s.advance index .login (.finished (.thrown (js "登录失败: " ++ message))))
  | .silentLogin =>
      match silentAccount (s.currentAccount.map Held.account) response with
      | some account => some (s.saveAccount index .silentLogin account)
      | none => some (s.advance index .silentLogin (.finished (.account (s.currentAccount.map Held.account))))
  | .logout => none

def Accounts.stored (s : Accounts) (change : Preferences → Preferences) : Accounts :=
  { s with prefStore := s.prefStore.map change }

def perform (s : Accounts) (index : Nat) (kind : Kind) : Stage → Option Accounts
  | .putting account false => some ((s.stored (Preferences.put index account)).advance index kind (.putting account true))
  | .deleting false => some ((s.stored Preferences.delete).advance index kind (.deleting true))
  | .flushing reply false => some ((s.stored Preferences.flush).advance index kind (.flushing reply true))
  | _ => none

-- A flush follows every put and every delete.
def Stage.next : Stage → Option Stage
  | .putting account true => some (.flushing (.account (some account)) false)
  | .deleting true => some (.flushing .void false)
  | .flushing reply true => some (.finished reply)
  | _ => none

-- saveAccount catches what the preferences throw; logout throws an error of its own.
def Stage.failed : Stage → Option Stage
  | .putting account _ => some (.finished (.account (some account)))
  | .deleting _ => some (.finished (.thrown (js "登出失败")))
  | .flushing .void _ => some (.finished (.thrown (js "登出失败")))
  | .flushing reply _ => some (.finished reply)
  | _ => none

def step (s : Accounts) : Event → Option Accounts
  | .login => some (s.begin .login .requesting)
  | .silentLogin =>
      some (s.begin .silentLogin (if s.currentAccount.isSome then .requesting else .finished (.account none)))
  | .logout =>
      some ({ s with currentAccount := none }.begin .logout
        (if s.prefStore.isSome then .deleting false else .finished .void))
  | .response index response =>
      match s.calls[index]? with
      | some ⟨kind, .requesting⟩ => answered s index response kind
      | _ => none
  | .performed index =>
      match s.calls[index]? with
      | some ⟨kind, stage⟩ => perform s index kind stage
      | none => none
  | .resumed index =>
      match s.calls[index]? with
      | some ⟨kind, stage⟩ => stage.next.map (s.advance index kind)
      | none => none
  | .rejected index =>
      match s.calls[index]? with
      | some ⟨kind, stage⟩ => stage.failed.map (s.advance index kind)
      | none => none

def Relogged (s : Accounts) (index : Nat) : Prop :=
  ∃ login account, index < login ∧ s.calls[login]? = some ⟨.login, .finished (.account account)⟩

-- A logout that began after a silent login, with no login after it that has succeeded.
structure Overtakes (s : Accounts) (logout silent : Nat) : Prop where
  later : silent < logout
  silentLogin : ∃ stage, s.calls[silent]? = some ⟨.silentLogin, stage⟩
  logsOut : ∃ stage, s.calls[logout]? = some ⟨.logout, stage⟩
  last : ¬ Relogged s logout

def WrittenBy (slot : Option Held) (index : Nat) : Prop := ∃ held ∈ slot, held.writer = some index

def Stage.deleted : Stage → Bool
  | .deleting performed => performed
  | .flushing .void _ => true
  | .finished .void => true
  | _ => false

def Stage.flushed : Stage → Bool
  | .flushing .void performed => performed
  | .finished .void => true
  | _ => false

theorem flushed_deleted (stage : Stage) (flushed : stage.flushed = true) : stage.deleted = true := by
  unfold Stage.flushed at flushed
  split at flushed
  · rfl
  · rfl
  · cases flushed

-- The account of a silent login is nowhere where the logout has been.
structure Clear (s : Accounts) (stage : Stage) (silent : Nat) : Prop where
  current : ¬ WrittenBy s.currentAccount silent
  cache : stage.deleted = true → ¬ WrittenBy s.cache silent
  file : stage.flushed = true → ¬ WrittenBy s.file silent

def Sound (s : Accounts) : Prop :=
  ∀ logout silent stage, Overtakes s logout silent → s.calls[logout]? = some ⟨.logout, stage⟩ → Clear s stage silent

-- When a logout has completed, no silent login from before it has its account anywhere.
def Final (s : Accounts) : Prop :=
  ∀ logout silent, Overtakes s logout silent → s.calls[logout]? = some ⟨.logout, .finished .void⟩ →
    ¬ WrittenBy s.currentAccount silent ∧ ¬ WrittenBy s.cache silent ∧ ¬ WrittenBy s.file silent

theorem sound_final (s : Accounts) (sound : Sound s) : Final s := by
  intro logout silent overtakes completed
  obtain ⟨current, cache, file⟩ := sound logout silent _ overtakes completed
  exact ⟨current, cache rfl, file rfl⟩

-- A response that makes an account: all its four fields are there, or an account still is.
def UserData.complete (user : UserData) : Prop :=
  truthy user.openID = true ∧ truthy user.nickName = true ∧ truthy user.avatarUri = true ∧ truthy user.unionID = true

theorem refreshed_iff (user : UserData) (current : Option HuaweiAccount) :
    refreshed user current ≠ none ↔ current ≠ none ∨ user.complete := by
  cases current with
  | some account =>
      refine iff_of_true ?_ (.inl (Option.some_ne_none account))
      have fields : ∀ field read, ∃ value, orCurrent field (some account) read = some value := by
        intro field read
        unfold orCurrent
        split <;> exact ⟨_, rfl⟩
      obtain ⟨_, openId⟩ := fields user.openID fun account => some account.openId
      obtain ⟨_, displayName⟩ := fields user.nickName fun account => some account.displayName
      obtain ⟨_, avatarUri⟩ := fields user.avatarUri HuaweiAccount.avatarUri
      obtain ⟨_, unionId⟩ := fields user.unionID HuaweiAccount.unionId
      simp [refreshed, openId, displayName, avatarUri, unionId]
  | none =>
      have fields : ∀ field read, orCurrent field none read = if truthy field then some field else none := fun _ _ => rfl
      unfold refreshed UserData.complete
      simp only [fields]
      cases truthy user.openID <;> cases truthy user.nickName <;> cases truthy user.avatarUri <;>
        cases truthy user.unionID <;> simp

-- No silent login goes on to write its account when a logout has overtaken it: neither its response
-- comes with an account, nor does its put take effect after the delete of the logout.
def Fits (s : Accounts) : Event → Prop
  | .response index (.data user) => (s.currentAccount ≠ none ∨ user.complete) → ∀ logout, ¬ Overtakes s logout index
  | .performed index => ∀ account, s.calls[index]? = some ⟨.silentLogin, .putting account false⟩ →
      ∀ logout stage, Overtakes s logout index → s.calls[logout]? = some ⟨.logout, stage⟩ → stage.deleted = false
  | _ => True

theorem begin_before (s : Accounts) (kind : Kind) (stage : Stage) (index : Nat) (call : Call)
    (known : (s.begin kind stage).calls[index]? = some call) :
    s.calls[index]? = some call ∨ index = s.calls.length ∧ call = ⟨kind, stage⟩ := by
  by_cases old : index < s.calls.length
  · exact .inl ((List.getElem?_append_left old).symm.trans known)
  · have bound := (List.getElem?_eq_some_iff.mp known).1
    have last : index = s.calls.length := by
      simp only [Accounts.begin, List.length_append, List.length_singleton] at bound
      omega
    subst last
    rw [Accounts.begin, List.getElem?_concat_length] at known
    exact .inr ⟨rfl, (Option.some.inj known).symm⟩

theorem begin_known (s : Accounts) (kind : Kind) (stage : Stage) (index : Nat) (call : Call)
    (known : s.calls[index]? = some call) : (s.begin kind stage).calls[index]? = some call :=
  (List.getElem?_append_left (List.getElem?_eq_some_iff.mp known).1).trans known

theorem overtakes_begin (s : Accounts) (kind : Kind) (stage : Stage) (logout silent : Nat)
    (overtakes : Overtakes (s.begin kind stage) logout silent) (old : logout < s.calls.length) :
    Overtakes s logout silent := by
  obtain ⟨later, ⟨_, asked⟩, ⟨_, ended⟩, last⟩ := overtakes
  have kept : ∀ index call, index < s.calls.length → (s.begin kind stage).calls[index]? = some call →
      s.calls[index]? = some call := fun index call inside known => (List.getElem?_append_left inside).symm.trans known
  refine ⟨later, ⟨_, kept silent _ (later.trans old) asked⟩, ⟨_, kept logout _ old ended⟩, ?_⟩
  rintro ⟨login, account, after, succeeded⟩
  exact last ⟨login, account, after, begin_known s kind stage login _ succeeded⟩

theorem begin_sound (s : Accounts) (kind : Kind) (stage : Stage) (sound : Sound s) (other : kind ≠ .logout) :
    Sound (s.begin kind stage) := by
  intro logout silent reached overtakes known
  rcases begin_before s kind stage logout _ known with before | ⟨_, same⟩
  · have old := (List.getElem?_eq_some_iff.mp before).1
    obtain ⟨current, cache, file⟩ := sound logout silent reached (overtakes_begin s kind stage logout silent overtakes old) before
    exact ⟨current, cache, file⟩
  · exact absurd (congrArg Call.kind same).symm other

theorem nothing_written (index : Nat) : ¬ WrittenBy none index := fun ⟨_, held, _⟩ => Option.not_mem_none _ held

theorem logout_sound (s : Accounts) (sound : Sound s) :
    Sound ({ s with currentAccount := none }.begin .logout (if s.prefStore.isSome then .deleting false else .finished .void)) := by
  intro logout silent reached overtakes known
  rcases begin_before _ _ _ logout _ known with before | ⟨_, same⟩
  · have old := (List.getElem?_eq_some_iff.mp before).1
    obtain ⟨later, asked, ended, last⟩ := overtakes_begin { s with currentAccount := none } _ _ logout silent overtakes old
    obtain ⟨_, cache, file⟩ := sound logout silent reached ⟨later, asked, ended, last⟩ before
    exact ⟨nothing_written silent, cache, file⟩
  · obtain rfl := congrArg Call.stage same
    refine ⟨nothing_written silent, ?_, ?_⟩
    all_goals
      intro done
      show ¬ WrittenBy (s.prefStore.bind _) silent
      cases opened : s.prefStore with
      | some prefs =>
          rw [opened] at done
          cases done
      | none => exact nothing_written silent

theorem overtakes_advance (s : Accounts) (index : Nat) (kind : Kind) (old new : Stage) (logout silent : Nat)
    (known : s.calls[index]? = some ⟨kind, old⟩) (unfinished : ∀ reply, old ≠ .finished reply)
    (overtakes : Overtakes (s.advance index kind new) logout silent) : Overtakes s logout silent := by
  have bound := (List.getElem?_eq_some_iff.mp known).1
  have kinds : ∀ (other : Nat) (call : Kind) (stage : Stage), (s.advance index kind new).calls[other]? = some ⟨call, stage⟩ →
      ∃ before, s.calls[other]? = some ⟨call, before⟩ := by
    intro other call stage here
    simp only [Accounts.advance, List.getElem?_set] at here
    by_cases same : index = other
    · rw [if_pos same, if_pos bound] at here
      obtain ⟨rfl, _⟩ := Call.mk.inj (Option.some.inj here)
      exact ⟨old, same ▸ known⟩
    · rw [if_neg same] at here
      exact ⟨stage, here⟩
  obtain ⟨later, ⟨_, asked⟩, ⟨_, ended⟩, last⟩ := overtakes
  refine ⟨later, kinds silent _ _ asked, kinds logout _ _ ended, ?_⟩
  rintro ⟨login, account, after, succeeded⟩
  refine last ⟨login, account, after, ?_⟩
  have different : index ≠ login := by
    rintro rfl
    obtain ⟨_, same⟩ := Call.mk.inj (Option.some.inj (known.symm.trans succeeded))
    exact unfinished _ same
  simp only [Accounts.advance, List.getElem?_set, if_neg different]
  exact succeeded

theorem advance_sound (s : Accounts) (index : Nat) (kind : Kind) (old new : Stage)
    (known : s.calls[index]? = some ⟨kind, old⟩) (unfinished : ∀ reply, old ≠ .finished reply)
    (others : ∀ logout silent stage, Overtakes s logout silent → s.calls[logout]? = some ⟨.logout, stage⟩ →
      index ≠ logout → Clear s stage silent)
    (own : ∀ silent, kind = .logout → Overtakes s index silent → Clear s new silent) :
    Sound (s.advance index kind new) := by
  intro logout silent stage overtakes here
  have before := overtakes_advance s index kind old new logout silent known unfinished overtakes
  have bound := (List.getElem?_eq_some_iff.mp known).1
  simp only [Accounts.advance, List.getElem?_set] at here
  by_cases same : index = logout
  · subst same
    rw [if_pos rfl, if_pos bound] at here
    obtain ⟨loggedOut, rfl⟩ := Call.mk.inj (Option.some.inj here)
    obtain ⟨current, cache, file⟩ := own silent loggedOut before
    exact ⟨current, cache, file⟩
  · rw [if_neg same] at here
    obtain ⟨current, cache, file⟩ := others logout silent stage before here same
    exact ⟨current, cache, file⟩

theorem written_writer (account : HuaweiAccount) (index silent : Nat) (written : WrittenBy (some ⟨account, some index⟩) silent) :
    index = silent := by
  obtain ⟨held, member, writer⟩ := written
  obtain rfl := Option.some.inj member
  exact Option.some.inj writer

theorem saved_sound (s : Accounts) (index : Nat) (kind : Kind) (account : HuaweiAccount) (sound : Sound s)
    (known : s.calls[index]? = some ⟨kind, .requesting⟩) (other : kind ≠ .logout)
    (fit : ∀ logout, ¬ Overtakes s logout index) : Sound (s.saveAccount index kind account) := by
  refine advance_sound { s with currentAccount := some ⟨account, some index⟩ } index kind .requesting _ known
    (fun _ finished => by cases finished) ?_ fun _ loggedOut => absurd loggedOut other
  intro logout silent stage overtakes here _
  obtain ⟨later, asked, ended, last⟩ := overtakes
  obtain ⟨_, cache, file⟩ := sound logout silent stage ⟨later, asked, ended, last⟩ here
  refine ⟨fun written => ?_, cache, file⟩
  obtain rfl := written_writer account index silent written
  exact fit logout ⟨later, asked, ended, last⟩

theorem advanced_sound (s : Accounts) (index : Nat) (kind : Kind) (old new : Stage) (sound : Sound s)
    (known : s.calls[index]? = some ⟨kind, old⟩) (unfinished : ∀ reply, old ≠ .finished reply)
    (deleted : new.deleted = true → old.deleted = true) (flushed : new.flushed = true → old.flushed = true) :
    Sound (s.advance index kind new) := by
  refine advance_sound s index kind old new known unfinished (fun logout silent stage overtakes here _ =>
    sound logout silent stage overtakes here) ?_
  rintro silent rfl overtakes
  obtain ⟨current, cache, file⟩ := sound index silent old overtakes known
  exact ⟨current, fun done => cache (deleted done), fun done => file (flushed done)⟩

theorem login_free (s : Accounts) (index : Nat) (stage : Stage) (known : s.calls[index]? = some ⟨.login, stage⟩)
    (logout : Nat) : ¬ Overtakes s logout index := by
  rintro ⟨_, ⟨other, asked⟩, _, _⟩
  cases known.symm.trans asked

theorem answered_sound (s next : Accounts) (index : Nat) (response : Response) (kind : Kind) (sound : Sound s)
    (known : s.calls[index]? = some ⟨kind, .requesting⟩) (fit : Fits s (.response index response))
    (move : answered s index response kind = some next) : Sound next := by
  cases kind with
  | login =>
      simp only [answered] at move
      split at move
      · obtain rfl := Option.some.inj move
        exact saved_sound s index .login _ sound known (by decide) (login_free s index _ known)
      · obtain rfl := Option.some.inj move
        exact advanced_sound s index .login .requesting _ sound known (fun _ finished => by cases finished)
          (fun done => by cases done) (fun done => by cases done)
  | silentLogin =>
      simp only [answered] at move
      split at move
      · rename_i account made
        obtain rfl := Option.some.inj move
        refine saved_sound s index .silentLogin account sound known (by decide) ?_
        cases response with
        | data user =>
            refine fit ?_
            have makes : refreshed user (s.currentAccount.map Held.account) ≠ none := fun missing =>
              Option.some_ne_none account (made.symm.trans missing)
            exact ((refreshed_iff user _).mp makes).imp_left fun held missing => held (by rw [missing]; rfl)
        | _ => cases made
      · obtain rfl := Option.some.inj move
        exact advanced_sound s index .silentLogin .requesting _ sound known (fun _ finished => by cases finished)
          (fun done => by cases done) (fun done => by cases done)
  | logout => cases move

theorem put_cache (s : Accounts) (index silent : Nat) (account : HuaweiAccount)
    (written : WrittenBy (s.stored (Preferences.put index account)).cache silent) : index = silent := by
  cases opened : s.prefStore with
  | none =>
      rw [Accounts.cache, Accounts.stored, opened] at written
      exact absurd written (nothing_written silent)
  | some prefs =>
      rw [Accounts.cache, Accounts.stored, opened] at written
      exact written_writer account index silent written

theorem put_file (s : Accounts) (index : Nat) (account : HuaweiAccount) :
    (s.stored (Preferences.put index account)).file = s.file := by
  unfold Accounts.file Accounts.stored
  cases s.prefStore <;> rfl

theorem delete_cache (s : Accounts) : (s.stored Preferences.delete).cache = none := by
  unfold Accounts.cache Accounts.stored
  cases s.prefStore <;> rfl

theorem delete_file (s : Accounts) : (s.stored Preferences.delete).file = s.file := by
  unfold Accounts.file Accounts.stored
  cases s.prefStore <;> rfl

theorem flush_cache (s : Accounts) : (s.stored Preferences.flush).cache = s.cache := by
  unfold Accounts.cache Accounts.stored
  cases s.prefStore <;> rfl

theorem flush_file (s : Accounts) : (s.stored Preferences.flush).file = s.cache := by
  unfold Accounts.file Accounts.cache Accounts.stored
  cases s.prefStore <;> rfl

theorem stored_sound (s : Accounts) (index : Nat) (kind : Kind) (old new : Stage) (change : Preferences → Preferences)
    (sound : Sound s) (known : s.calls[index]? = some ⟨kind, old⟩) (unfinished : ∀ reply, old ≠ .finished reply)
    (others : ∀ logout silent stage, Overtakes s logout silent → s.calls[logout]? = some ⟨.logout, stage⟩ →
      Clear s stage silent → Clear (s.stored change) stage silent)
    (own : ∀ silent, Clear s old silent → Clear (s.stored change) new silent) :
    Sound ((s.stored change).advance index kind new) := by
  refine advance_sound (s.stored change) index kind old new known unfinished ?_ ?_
  · rintro logout silent stage ⟨later, asked, ended, last⟩ here _
    exact others logout silent stage ⟨later, asked, ended, last⟩ here
      (sound logout silent stage ⟨later, asked, ended, last⟩ here)
  · rintro silent rfl ⟨later, asked, ended, last⟩
    exact own silent (sound index silent old ⟨later, asked, ended, last⟩ known)

theorem put_sound (s : Accounts) (index : Nat) (kind : Kind) (account : HuaweiAccount) (sound : Sound s)
    (known : s.calls[index]? = some ⟨kind, .putting account false⟩) (fit : Fits s (.performed index)) :
    Sound ((s.stored (Preferences.put index account)).advance index kind (.putting account true)) := by
  refine stored_sound s index kind _ _ _ sound known (fun _ finished => by cases finished) ?_ ?_
  · rintro logout silent stage overtakes here ⟨current, cache, file⟩
    refine ⟨current, fun done written => ?_, fun done => ?_⟩
    · obtain rfl := put_cache s index silent account written
      obtain ⟨other, silently⟩ := overtakes.silentLogin
      obtain ⟨rfl, _⟩ := Call.mk.inj (Option.some.inj (known.symm.trans silently))
      exact Bool.false_ne_true ((fit account known logout stage overtakes here).symm.trans done)
    · rw [put_file]
      exact file done
  · rintro silent ⟨current, _, _⟩
    exact ⟨current, fun done => by (cases done), fun done => by (cases done)⟩

theorem delete_sound (s : Accounts) (index : Nat) (kind : Kind) (sound : Sound s)
    (known : s.calls[index]? = some ⟨kind, .deleting false⟩) :
    Sound ((s.stored Preferences.delete).advance index kind (.deleting true)) := by
  have erased : ∀ silent, ¬ WrittenBy (s.stored Preferences.delete).cache silent := by
    intro silent
    rw [delete_cache]
    exact nothing_written silent
  refine stored_sound s index kind _ _ _ sound known (fun _ finished => by cases finished) ?_ ?_
  · rintro logout silent stage _ _ ⟨current, _, file⟩
    refine ⟨current, fun _ => erased silent, fun done => ?_⟩
    rw [delete_file]
    exact file done
  · rintro silent ⟨current, _, _⟩
    exact ⟨current, fun _ => erased silent, fun done => by cases done⟩

theorem flush_sound (s : Accounts) (index : Nat) (kind : Kind) (reply : Reply) (sound : Sound s)
    (known : s.calls[index]? = some ⟨kind, .flushing reply false⟩) :
    Sound ((s.stored Preferences.flush).advance index kind (.flushing reply true)) := by
  have kept : ∀ (stage : Stage) (silent : Nat), Clear s stage silent → ∀ flushed : Stage,
      (flushed.deleted = true → stage.deleted = true) → Clear (s.stored Preferences.flush) flushed silent := by
    rintro stage silent ⟨current, cache, _⟩ flushed deletes
    refine ⟨current, fun done => ?_, fun done => ?_⟩
    · rw [flush_cache]
      exact cache (deletes done)
    · rw [flush_file]
      exact cache (deletes (flushed_deleted flushed done))
  refine stored_sound s index kind _ _ _ sound known (fun _ finished => by cases finished) ?_ ?_
  · exact fun logout silent stage _ _ clear => kept stage silent clear stage id
  · exact fun silent clear => kept _ silent clear _ fun done => by cases reply <;> exact done

theorem performed_sound (s next : Accounts) (index : Nat) (kind : Kind) (stage : Stage) (sound : Sound s)
    (known : s.calls[index]? = some ⟨kind, stage⟩) (fit : Fits s (.performed index))
    (move : perform s index kind stage = some next) : Sound next := by
  unfold perform at move
  split at move
  · rename_i account
    obtain rfl := Option.some.inj move
    exact put_sound s index kind account sound known fit
  · obtain rfl := Option.some.inj move
    exact delete_sound s index kind sound known
  · rename_i reply
    obtain rfl := Option.some.inj move
    exact flush_sound s index kind reply sound known
  · cases move

theorem next_flags (stage next : Stage) (goes : stage.next = some next) :
    (∀ reply, stage ≠ .finished reply) ∧ (next.deleted = true → stage.deleted = true) ∧
      (next.flushed = true → stage.flushed = true) := by
  unfold Stage.next at goes
  split at goes
  · cases goes
    exact ⟨fun _ finished => by (cases finished), fun done => by (cases done), fun done => by (cases done)⟩
  · cases goes
    exact ⟨fun _ finished => by (cases finished), fun _ => rfl, fun done => by (cases done)⟩
  · rename_i reply
    cases goes
    refine ⟨fun _ finished => by (cases finished), ?_, ?_⟩
    all_goals cases reply <;> exact id
  · cases goes

theorem failed_flags (stage next : Stage) (fails : stage.failed = some next) :
    (∀ reply, stage ≠ .finished reply) ∧ (next.deleted = true → stage.deleted = true) ∧
      (next.flushed = true → stage.flushed = true) := by
  unfold Stage.failed at fails
  split at fails
  all_goals cases fails
  · exact ⟨fun _ finished => by (cases finished), fun done => by (cases done), fun done => by (cases done)⟩
  · exact ⟨fun _ finished => by (cases finished), fun done => by (cases done), fun done => by (cases done)⟩
  · exact ⟨fun _ finished => by (cases finished), fun done => by (cases done), fun done => by (cases done)⟩
  · rename_i reply performed other
    refine ⟨fun _ finished => by (cases finished), ?_, ?_⟩
    all_goals
      intro done
      cases reply with
      | void => exact (other rfl).elim
      | account _ => cases done
      | thrown _ => cases done

theorem step_sound (s : Accounts) (event : Event) (next : Accounts) (sound : Sound s) (fit : Fits s event)
    (move : step s event = some next) : Sound next := by
  cases event with
  | login =>
      obtain rfl := Option.some.inj move
      exact begin_sound s .login .requesting sound (by decide)
  | silentLogin =>
      obtain rfl := Option.some.inj move
      exact begin_sound s .silentLogin _ sound (by decide)
  | logout =>
      obtain rfl := Option.some.inj move
      exact logout_sound s sound
  | response index response =>
      simp only [step] at move
      split at move
      · rename_i kind known
        exact answered_sound s next index response kind sound known fit move
      · cases move
  | performed index =>
      simp only [step] at move
      split at move
      · rename_i kind stage known
        exact performed_sound s next index kind stage sound known fit move
      · cases move
  | resumed index =>
      simp only [step] at move
      split at move
      · rename_i kind stage known
        obtain ⟨after, goes, rfl⟩ := Option.map_eq_some_iff.mp move
        obtain ⟨unfinished, deleted, flushed⟩ := next_flags stage after goes
        exact advanced_sound s index kind stage after sound known unfinished deleted flushed
      · cases move
  | rejected index =>
      simp only [step] at move
      split at move
      · rename_i kind stage known
        obtain ⟨after, fails, rfl⟩ := Option.map_eq_some_iff.mp move
        obtain ⟨unfinished, deleted, flushed⟩ := failed_flags stage after fails
        exact advanced_sound s index kind stage after sound known unfinished deleted flushed
      · cases move

theorem advance_broken (s : Accounts) (index logout : Nat) (old new : Stage) (overtakes : Overtakes s logout index)
    (known : s.calls[index]? = some ⟨.silentLogin, old⟩) (completed : s.calls[logout]? = some ⟨.logout, .finished .void⟩)
    (written : WrittenBy s.currentAccount index ∨ WrittenBy s.cache index) :
    ¬ Final (s.advance index .silentLogin new) := by
  have bound := (List.getElem?_eq_some_iff.mp known).1
  have others : ∀ other, index ≠ other → (s.advance index .silentLogin new).calls[other]? = s.calls[other]? :=
    fun other different => List.getElem?_set_ne different
  have ended := (others logout (by have := overtakes.later; omega)).trans completed
  have silently : (s.advance index .silentLogin new).calls[index]? = some ⟨.silentLogin, new⟩ :=
    List.getElem?_set_self bound
  intro final
  have clear := final logout index ⟨overtakes.later, ⟨new, silently⟩, ⟨_, ended⟩, ?_⟩ ended
  · rcases written with current | cache
    · exact clear.1 current
    · exact clear.2.1 cache
  · rintro ⟨login, account, later, succeeded⟩
    have different : index ≠ login := by have := overtakes.later; omega
    exact overtakes.last ⟨login, account, later, (others login different).symm.trans succeeded⟩

/-- A response that does not fit, after a logout that has completed, logs in again. -/
theorem response_broken (s next : Accounts) (index logout : Nat) (user : UserData) (overtakes : Overtakes s logout index)
    (completed : s.calls[logout]? = some ⟨.logout, .finished .void⟩)
    (makes : s.currentAccount ≠ none ∨ user.complete) (move : step s (.response index (.data user)) = some next) :
    ¬ Final next := by
  obtain ⟨old, known⟩ := overtakes.silentLogin
  simp only [step, known] at move
  cases old with
  | requesting =>
      have refreshes : refreshed user (s.currentAccount.map Held.account) ≠ none := by
        refine (refreshed_iff user _).mpr (makes.imp_left fun held missing => held ?_)
        exact Option.map_eq_none_iff.mp missing
      obtain ⟨account, made⟩ := Option.ne_none_iff_exists'.mp refreshes
      simp only [answered, silentAccount, made] at move
      obtain rfl := Option.some.inj move
      obtain ⟨later, asked, ended, last⟩ := overtakes
      exact advance_broken { s with currentAccount := some ⟨account, some index⟩ } index logout .requesting _
        ⟨later, asked, ended, last⟩ known completed (.inl ⟨_, rfl, rfl⟩)
  | _ => cases move

/-- A put that takes effect after a logout has completed leaves its account in the preferences. -/
theorem put_broken (s next : Accounts) (index logout : Nat) (account : HuaweiAccount) (opened : s.prefStore ≠ none)
    (overtakes : Overtakes s logout index) (completed : s.calls[logout]? = some ⟨.logout, .finished .void⟩)
    (putting : s.calls[index]? = some ⟨.silentLogin, .putting account false⟩)
    (move : step s (.performed index) = some next) : ¬ Final next := by
  simp only [step, putting, perform] at move
  obtain rfl := Option.some.inj move
  obtain ⟨prefs, open'⟩ := Option.ne_none_iff_exists'.mp opened
  obtain ⟨later, asked, ended, last⟩ := overtakes
  refine advance_broken (s.stored (Preferences.put index account)) index logout (.putting account false) _
    ⟨later, asked, ended, last⟩ putting completed (.inr ⟨⟨account, some index⟩, ?_, rfl⟩)
  rw [Accounts.cache, Accounts.stored, open']
  rfl

theorem logout_fits (s : Accounts) (index : Nat) (stage : Stage) (known : s.calls[index]? = some ⟨.logout, stage⟩) :
    Fits s (.performed index) := by
  intro account putting
  cases known.symm.trans putting

def initial (account : Option HuaweiAccount) (saved : Option (Option HuaweiAccount × Option HuaweiAccount)) : Accounts where
  currentAccount := account.map fun account => { account }
  prefStore := saved.map fun (cache, file) =>
    { cache := cache.map fun account => { account }, file := file.map fun account => { account } }

/-- Logout is final throughout the runs in which no silent login goes on after a logout that has overtaken it. -/
theorem logout_final (account : Option HuaweiAccount) (saved : Option (Option HuaweiAccount × Option HuaweiAccount))
    (events : List Event) (fitting : Steps step (initial account saved) events fun before event _ => Fits before event) :
    Always step (initial account saved) events Final := by
  refine fits_always step _ events Sound Final ?_ Fits (fun before event after sound fit move =>
    step_sound before event after sound fit move) sound_final fitting
  rintro logout silent stage ⟨_, _, ⟨_, ended⟩, _⟩ _
  cases ended

def user : UserData := { openID := js "id", nickName := js "name", avatarUri := js "uri", unionID := js "union" }

def owner : HuaweiAccount := { openId := js "id", displayName := js "name", avatarUri := none, unionId := none }

def loggedOut : List Event := [.silentLogin, .logout, .performed 1, .resumed 1, .performed 1, .resumed 1]

theorem logout_final_unanswered :
    ∃ s, (loggedOut ++ [Event.response 0 .empty]).foldlM step (initial (some owner) (some (some owner, some owner))) = some s ∧
      s.isLoggedIn = false ∧ Final s := by
  refine ⟨_, rfl, rfl, ?_⟩
  refine logout_final (some owner) (some (some owner, some owner)) (loggedOut ++ [Event.response 0 .empty]) ?_ _ [] _
    (List.append_nil _).symm (moves_run _ _ _ _ rfl)
  refine (steps_cons _ _ _ _ _ _ rfl).mpr ⟨trivial, (steps_cons _ _ _ _ _ _ rfl).mpr ⟨trivial, ?_⟩⟩
  refine (steps_cons _ _ _ _ _ _ rfl).mpr ⟨logout_fits _ 1 _ rfl, (steps_cons _ _ _ _ _ _ rfl).mpr ⟨trivial, ?_⟩⟩
  refine (steps_cons _ _ _ _ _ _ rfl).mpr ⟨logout_fits _ 1 _ rfl, (steps_cons _ _ _ _ _ _ rfl).mpr ⟨trivial, ?_⟩⟩
  exact (steps_cons _ _ _ _ _ _ rfl).mpr ⟨trivial, steps_nil _ _ _⟩

/-- The response of a silent login logs in again after logout, and the account is back in the preferences. -/
theorem logout_undone :
    ∃ s, (loggedOut ++ [Event.response 0 (.data user), Event.performed 0]).foldlM step
        (initial (some owner) (some (some owner, some owner))) = some s ∧
      s.calls[1]? = some ⟨.logout, .finished .void⟩ ∧ s.isLoggedIn = true ∧ s.cache ≠ none ∧ ¬ Final s := by
  refine ⟨_, rfl, rfl, rfl, Option.some_ne_none _, fun final => ?_⟩
  refine (final 1 0 ⟨by decide, ⟨_, rfl⟩, ⟨_, rfl⟩, ?_⟩ rfl).1 ⟨_, rfl, rfl⟩
  rintro ⟨login, account, later, succeeded⟩
  have bound : login < 2 := (List.getElem?_eq_some_iff.mp succeeded).1
  omega

end Kessh.AccountManager
