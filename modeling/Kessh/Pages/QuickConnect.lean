import Kessh.Lib.Columns
import Kessh.Lib.RegExp
import Kessh.Store.Connections

set_option autoImplicit false

namespace Kessh

open Ecma
open RegExp (Atom Matches Run exec literal)

namespace SSHNewPage

-- The class [^\s@]
def isWordUnit (unit : UInt16) : Bool := !isSpace unit && unit != 0x40

def gap : Atom UInt16 := .run isSpace false

def word : Atom UInt16 := .run isWordUnit true

def number : Atom UInt16 := .run isDigit true

-- /^ssh\s+([^\s@]+)@([^\s@]+)\s+-p\s+(\d+)$/
def sshWithPortAfter : List (Atom UInt16) :=
  literal (js "ssh") ++ gap :: word :: (literal (js "@") ++ word :: gap :: (literal (js "-p") ++ [gap, number]))

-- /^ssh\s+-p\s+(\d+)\s+([^\s@]+)@([^\s@]+)$/
def sshWithPortBefore : List (Atom UInt16) :=
  literal (js "ssh") ++ gap :: (literal (js "-p") ++ gap :: number :: gap :: word :: (literal (js "@") ++ [word]))

-- /^ssh\s+([^\s@]+)@([^\s@]+)$/
def sshNoPort : List (Atom UInt16) := literal (js "ssh") ++ gap :: word :: (literal (js "@") ++ [word])

def quickDraft (username host port : JsString) : ConnectionDraft :=
  { host, port := .text port, username, password := some [] }

def parseUserHost (value : JsString) : Option ConnectionDraft :=
  match value.splitOn 0x40 with
  | [username, host] => if username.isEmpty || host.isEmpty then none else some (quickDraft username host (js "22"))
  | _ => none

-- match[n] is the group n - 1.
def parseQuickCommand (cmd : JsString) : Option ConnectionDraft :=
  match exec sshWithPortAfter cmd with
  | some groups => some (quickDraft (groups.getD 0 []) (groups.getD 1 []) (groups.getD 2 []))
  | none =>
      match exec sshWithPortBefore cmd with
      | some groups => some (quickDraft (groups.getD 1 []) (groups.getD 2 []) (groups.getD 0 []))
      | none =>
          match exec sshNoPort cmd with
          | some groups => some (quickDraft (groups.getD 0 []) (groups.getD 1 []) (js "22"))
          | none => parseUserHost cmd

-- What the page changes outside itself, the newest toast and route first.
structure Surroundings where
  currentDraft : Option ConnectionDraft := none
  toasts : List JsString := []
  routes : List JsString := []
deriving DecidableEq

def parseAndConnect (quickCmd : JsString) (s : Surroundings) : Except JsError Surroundings := do
  let cmd := trim quickCmd
  if cmd.isEmpty then return s
  match parseQuickCommand cmd with
  | none => return { s with toasts := js "格式错误: ssh user@host -p port" :: s.toasts }
  | some draft =>
      let validation ← ConnectionStore.validateDraft draft
      if truthy validation then return { s with toasts := validation.getD [] :: s.toasts }
      let normalized ← ConnectionStore.normalizeDraft draft
      return { s with currentDraft := some normalized, routes := js "pages/AddHost" :: s.routes }

-- The texts the page offers, with the user, host and port each means.
inductive Quick : JsString → JsString → JsString → JsString → Prop
  | userHost (user host : JsString) (users : Run isWordUnit user) (hosts : Run isWordUnit host) :
      Quick (user ++ (js "@" ++ host)) user host (js "22")
  | ssh (space user host : JsString) (spaces : Run isSpace space) (users : Run isWordUnit user)
      (hosts : Run isWordUnit host) : Quick (js "ssh" ++ (space ++ (user ++ (js "@" ++ host)))) user host (js "22")
  | portAfter (space user host before after port : JsString) (spaces : Run isSpace space)
      (users : Run isWordUnit user) (hosts : Run isWordUnit host) (befores : Run isSpace before)
      (afters : Run isSpace after) (ports : Run isDigit port) :
      Quick (js "ssh" ++ (space ++ (user ++ (js "@" ++ (host ++ (before ++ (js "-p" ++ (after ++ port)))))))) user host port
  | portBefore (space after port between user host : JsString) (spaces : Run isSpace space)
      (afters : Run isSpace after) (ports : Run isDigit port) (betweens : Run isSpace between)
      (users : Run isWordUnit user) (hosts : Run isWordUnit host) :
      Quick (js "ssh" ++ (space ++ (js "-p" ++ (after ++ (port ++ (between ++ (user ++ (js "@" ++ host)))))))) user host port

theorem word_not_space (unit : UInt16) (member : isWordUnit unit = true) : isSpace unit = false := by
  simp only [isWordUnit, Bool.and_eq_true, Bool.not_eq_true'] at member
  exact member.1

theorem space_not_word (unit : UInt16) (space : isSpace unit = true) : isWordUnit unit = false := by
  rw [isWordUnit, space, Bool.not_true, Bool.false_and]

theorem space_not_digit (unit : UInt16) (space : isSpace unit = true) : isDigit unit = false := by
  cases digit : isDigit unit with
  | false => rfl
  | true => exact absurd space (by rw [digit_not_space unit digit]; exact Bool.false_ne_true)

theorem word_bare (text : JsString) (run : Run isWordUnit text) : 0x40 ∉ text := fun member =>
  absurd (run.members _ member) (by decide)

theorem units_ssh : js "ssh" = [0x73, 0x73, 0x68] := by decide

theorem units_port : js "-p" = [0x2D, 0x70] := by decide

theorem units_at : js "@" = [0x40] := by decide

theorem exec_after (text : JsString) (groups : List JsString) :
    exec sshWithPortAfter text = some groups ↔
      ∃ space user host before after port, Run isSpace space ∧ Run isWordUnit user ∧ Run isWordUnit host ∧
        Run isSpace before ∧ Run isSpace after ∧ Run isDigit port ∧
        text = js "ssh" ++ (space ++ (user ++ (js "@" ++ (host ++ (before ++ (js "-p" ++ (after ++ port))))))) ∧
        groups = [user, host, port] := by
  have separated : RegExp.Separated sshWithPortAfter := by
    simp only [sshWithPortAfter, units_ssh, units_port, units_at, literal, List.map_cons, List.map_nil, List.cons_append,
      List.nil_append, gap, word, number, RegExp.Separated]
    exact ⟨space_not_word, by decide, word_not_space, by decide, space_not_digit, trivial⟩
  rw [RegExp.exec_iff _ separated]
  simp only [sshWithPortAfter, gap, word, number, RegExp.matches_literal, RegExp.matches_run, RegExp.matches_nil,
    RegExp.keep, if_true, Bool.false_eq_true, if_false]
  constructor
  · rintro ⟨_, rfl, space, _, _, spaces, rfl, ⟨user, _, _, users, rfl, ⟨_, rfl, host, _, _, hosts, rfl, ⟨before, _, _,
      befores, rfl, ⟨_, rfl, after, _, _, afters, rfl, ⟨port, _, _, ports, rfl, ⟨rfl, rfl⟩, rfl⟩, rfl⟩, rfl⟩, rfl⟩,
      rfl⟩, rfl⟩
    exact ⟨space, user, host, before, after, port, spaces, users, hosts, befores, afters, ports, by simp, rfl⟩
  · rintro ⟨space, user, host, before, after, port, spaces, users, hosts, befores, afters, ports, rfl, rfl⟩
    exact ⟨_, rfl, space, _, _, spaces, rfl, ⟨user, _, _, users, rfl, ⟨_, rfl, host, _, _, hosts, rfl, ⟨before, _, _,
      befores, rfl, ⟨_, rfl, after, _, _, afters, rfl, ⟨port, [], _, ports, (List.append_nil port).symm, ⟨rfl, rfl⟩, rfl⟩,
      rfl⟩, rfl⟩, rfl⟩, rfl⟩, rfl⟩

theorem exec_before (text : JsString) (groups : List JsString) :
    exec sshWithPortBefore text = some groups ↔
      ∃ space after port between user host, Run isSpace space ∧ Run isSpace after ∧ Run isDigit port ∧
        Run isSpace between ∧ Run isWordUnit user ∧ Run isWordUnit host ∧
        text = js "ssh" ++ (space ++ (js "-p" ++ (after ++ (port ++ (between ++ (user ++ (js "@" ++ host))))))) ∧
        groups = [port, user, host] := by
  have separated : RegExp.Separated sshWithPortBefore := by
    simp only [sshWithPortBefore, units_ssh, units_port, units_at, literal, List.map_cons, List.map_nil,
      List.cons_append, List.nil_append, gap, word, number, RegExp.Separated]
    exact ⟨by decide, space_not_digit, digit_not_space, space_not_word, by decide, trivial⟩
  rw [RegExp.exec_iff _ separated]
  simp only [sshWithPortBefore, gap, word, number, RegExp.matches_literal, RegExp.matches_run, RegExp.matches_nil,
    RegExp.keep, if_true, Bool.false_eq_true, if_false]
  constructor
  · rintro ⟨_, rfl, space, _, _, spaces, rfl, ⟨_, rfl, after, _, _, afters, rfl, ⟨port, _, _, ports, rfl, ⟨between, _, _,
      betweens, rfl, ⟨user, _, _, users, rfl, ⟨_, rfl, host, _, _, hosts, rfl, ⟨rfl, rfl⟩, rfl⟩, rfl⟩, rfl⟩, rfl⟩, rfl⟩,
      rfl⟩
    exact ⟨space, after, port, between, user, host, spaces, afters, ports, betweens, users, hosts, by simp, rfl⟩
  · rintro ⟨space, after, port, between, user, host, spaces, afters, ports, betweens, users, hosts, rfl, rfl⟩
    exact ⟨_, rfl, space, _, _, spaces, rfl, ⟨_, rfl, after, _, _, afters, rfl, ⟨port, _, _, ports, rfl, ⟨between, _, _,
      betweens, rfl, ⟨user, _, _, users, rfl, ⟨_, rfl, host, [], _, hosts, (List.append_nil host).symm, ⟨rfl, rfl⟩, rfl⟩,
      rfl⟩, rfl⟩, rfl⟩, rfl⟩, rfl⟩

theorem exec_noPort (text : JsString) (groups : List JsString) :
    exec sshNoPort text = some groups ↔
      ∃ space user host, Run isSpace space ∧ Run isWordUnit user ∧ Run isWordUnit host ∧
        text = js "ssh" ++ (space ++ (user ++ (js "@" ++ host))) ∧ groups = [user, host] := by
  have separated : RegExp.Separated sshNoPort := by
    simp only [sshNoPort, units_ssh, units_at, literal, List.map_cons, List.map_nil, List.cons_append, List.nil_append,
      gap, word, RegExp.Separated]
    exact ⟨space_not_word, by decide, trivial⟩
  rw [RegExp.exec_iff _ separated]
  simp only [sshNoPort, gap, word, RegExp.matches_literal, RegExp.matches_run, RegExp.matches_nil, RegExp.keep, if_true,
    Bool.false_eq_true, if_false]
  constructor
  · rintro ⟨_, rfl, space, _, _, spaces, rfl, ⟨user, _, _, users, rfl, ⟨_, rfl, host, _, _, hosts, rfl, ⟨rfl, rfl⟩, rfl⟩,
      rfl⟩, rfl⟩
    exact ⟨space, user, host, spaces, users, hosts, by simp, rfl⟩
  · rintro ⟨space, user, host, spaces, users, hosts, rfl, rfl⟩
    exact ⟨_, rfl, space, _, _, spaces, rfl, ⟨user, _, _, users, rfl, ⟨_, rfl, host, [], _, hosts,
      (List.append_nil host).symm, ⟨rfl, rfl⟩, rfl⟩, rfl⟩, rfl⟩

theorem words_gap (start space rest : JsString) (some : start ≠ []) (solid : ∀ unit ∈ start, isSpace unit = false)
    (spaces : Run isSpace space) : words (start ++ (space ++ rest)) = start :: words rest := by
  cases space with
  | nil => exact absurd rfl spaces.nonempty
  | cons unit space =>
      rw [List.cons_append, words_append start (space ++ rest) unit (spaces.members unit List.mem_cons_self),
        words_solid start some solid,
        words_skip space rest fun other member => spaces.members other (List.mem_cons_of_mem _ member)]
      rfl

theorem name_solid (user host : JsString) (users : Run isWordUnit user) (hosts : Run isWordUnit host) :
    ∀ unit ∈ user ++ (js "@" ++ host), isSpace unit = false := by
  intro unit member
  rcases List.mem_append.mp member with here | member
  · exact word_not_space unit (users.members unit here)
  · rcases List.mem_append.mp member with here | here
    · rw [units_at, List.mem_singleton] at here
      rw [here]
      decide
    · exact word_not_space unit (hosts.members unit here)

theorem words_name (user host : JsString) (users : Run isWordUnit user) (hosts : Run isWordUnit host) :
    words (user ++ (js "@" ++ host)) = [user ++ (js "@" ++ host)] :=
  words_solid _ (by simp [users.nonempty]) (name_solid user host users hosts)

def Spoken (said : List JsString) (name port : JsString) : Prop :=
  ((said = [name] ∨ said = [js "ssh", name]) ∧ port = js "22") ∨ said = [js "ssh", name, js "-p", port] ∨
    said = [js "ssh", js "-p", port, name]

theorem ssh_solid : ∀ unit ∈ js "ssh", isSpace unit = false := solid_text _ (by decide)

theorem port_solid : ∀ unit ∈ js "-p", isSpace unit = false := solid_text _ (by decide)

theorem digits_solid (port : JsString) (ports : Run isDigit port) : ∀ unit ∈ port, isSpace unit = false :=
  fun unit member => digit_not_space unit (ports.members unit member)

theorem quick_runs (text user host port : JsString) (quick : Quick text user host port) :
    Run isWordUnit user ∧ Run isWordUnit host := by
  cases quick with
  | userHost _ _ users hosts => exact ⟨users, hosts⟩
  | ssh _ _ _ _ users hosts => exact ⟨users, hosts⟩
  | portAfter _ _ _ _ _ _ _ users hosts => exact ⟨users, hosts⟩
  | portBefore _ _ _ _ _ _ _ _ _ _ users hosts => exact ⟨users, hosts⟩

theorem quick_spoken (text user host port : JsString) (quick : Quick text user host port) :
    Spoken (words text) (user ++ (js "@" ++ host)) port := by
  have ssh : js "ssh" ≠ [] := by decide
  have option : js "-p" ≠ [] := by decide
  cases quick with
  | userHost _ _ users hosts =>
      exact .inl ⟨.inl (words_name user host users hosts), rfl⟩
  | ssh space _ _ spaces users hosts =>
      refine .inl ⟨.inr ?_, rfl⟩
      rw [words_gap _ space _ ssh ssh_solid spaces, words_name user host users hosts]
  | portAfter space _ _ before after _ spaces users hosts befores afters ports =>
      refine .inr (.inl ?_)
      have cut : user ++ (js "@" ++ (host ++ (before ++ (js "-p" ++ (after ++ port))))) =
          (user ++ (js "@" ++ host)) ++ (before ++ (js "-p" ++ (after ++ port))) := by
        simp only [List.append_assoc]
      rw [words_gap _ space _ ssh ssh_solid spaces, cut,
        words_gap _ before _ (by simp [users.nonempty]) (name_solid user host users hosts) befores,
        words_gap _ after _ option port_solid afters, words_solid port ports.nonempty (digits_solid port ports)]
  | portBefore space after _ between _ _ spaces afters ports betweens users hosts =>
      refine .inr (.inr ?_)
      rw [words_gap _ space _ ssh ssh_solid spaces, words_gap _ after _ option port_solid afters,
        words_gap _ between _ ports.nonempty (digits_solid port ports) betweens, words_name user host users hosts]

theorem spoken_unique (said : List JsString) (name port other another : JsString) (one : Spoken said name port)
    (two : Spoken said other another) (named : 0x40 ∈ name) (again : 0x40 ∈ other) : name = other ∧ port = another := by
  have option : 0x40 ∉ js "-p" := by decide
  rcases one with ⟨rfl | rfl, rfl⟩ | rfl | rfl <;> rcases two with ⟨same | same, rfl⟩ | same | same <;> simp_all

theorem splitOn_name (user host : JsString) (users : 0x40 ∉ user) (hosts : 0x40 ∉ host) :
    (user ++ (js "@" ++ host)).splitOn 0x40 = [user, host] := by
  rw [units_at, List.singleton_append, List.splitOn_append_cons_self_of_not_mem users, List.splitOn_eq_singleton hosts]

theorem quick_unique (text user host port user' host' port' : JsString) (quick : Quick text user host port)
    (again : Quick text user' host' port') : user = user' ∧ host = host' ∧ port = port' := by
  obtain ⟨users, hosts⟩ := quick_runs text user host port quick
  obtain ⟨users', hosts'⟩ := quick_runs text user' host' port' again
  have named : ∀ user host : JsString, 0x40 ∈ user ++ (js "@" ++ host) := fun user host => by
    rw [units_at]
    simp
  obtain ⟨name, rfl⟩ := spoken_unique _ _ _ _ _ (quick_spoken text user host port quick)
    (quick_spoken text user' host' port' again) (named user host) (named user' host')
  have pieces := splitOn_name user host (word_bare user users) (word_bare host hosts)
  rw [name, splitOn_name user' host' (word_bare user' users') (word_bare host' hosts')] at pieces
  simp only [List.cons.injEq, and_true] at pieces
  exact ⟨pieces.1.symm, pieces.2.symm, rfl⟩

def expressions : List (List (Atom UInt16)) := [sshWithPortAfter, sshWithPortBefore, sshNoPort]

theorem command_quick (cmd : JsString) (expression : List (Atom UInt16)) (member : expression ∈ expressions)
    (groups : List JsString) (found : exec expression cmd = some groups) :
    ∃ user host port, Quick cmd user host port ∧ parseQuickCommand cmd = some (quickDraft user host port) := by
  rw [parseQuickCommand]
  cases after : exec sshWithPortAfter cmd with
  | some groups =>
      obtain ⟨space, user, host, before, behind, port, spaces, users, hosts, befores, behinds, ports, rfl, rfl⟩ :=
        (exec_after cmd groups).mp after
      exact ⟨user, host, port, .portAfter space user host before behind port spaces users hosts befores behinds ports, rfl⟩
  | none =>
      cases before : exec sshWithPortBefore cmd with
      | some groups =>
          obtain ⟨space, behind, port, between, user, host, spaces, behinds, ports, betweens, users, hosts, rfl, rfl⟩ :=
            (exec_before cmd groups).mp before
          exact ⟨user, host, port,
            .portBefore space behind port between user host spaces behinds ports betweens users hosts, rfl⟩
      | none =>
          cases plain : exec sshNoPort cmd with
          | some groups =>
              obtain ⟨space, user, host, spaces, users, hosts, rfl, rfl⟩ := (exec_noPort cmd groups).mp plain
              exact ⟨user, host, js "22", .ssh space user host spaces users hosts, rfl⟩
          | none =>
              simp only [expressions, List.mem_cons, List.not_mem_nil, or_false] at member
              rcases member with rfl | rfl | rfl
              · exact absurd found (by simp [after])
              · exact absurd found (by simp [before])
              · exact absurd found (by simp [plain])

theorem parseUserHost_iff (value : JsString) (draft : ConnectionDraft) :
    parseUserHost value = some draft ↔
      ∃ user host, user ≠ [] ∧ host ≠ [] ∧ 0x40 ∉ user ∧ 0x40 ∉ host ∧ value = user ++ (js "@" ++ host) ∧
        draft = quickDraft user host (js "22") := by
  constructor
  · intro parsed
    unfold parseUserHost at parsed
    split at parsed
    · rename_i user host pieces
      obtain ⟨_, bare, whole⟩ := (splitOn_iff 0x40 value [user, host]).mp pieces
      split at parsed
      · cases parsed
      · rename_i present
        simp only [Bool.or_eq_true, List.isEmpty_iff, not_or] at present
        cases parsed
        refine ⟨user, host, present.1, present.2, bare user (by simp), bare host (by simp), ?_, rfl⟩
        rw [whole, units_at]
        simp [join]
    · cases parsed
  · rintro ⟨user, host, some, more, users, hosts, rfl, rfl⟩
    rw [parseUserHost, splitOn_name user host users hosts]
    simp [some, more]

def ReadsRight (text : JsString) : Prop :=
  ∀ draft, parseQuickCommand text = some draft ↔
    ∃ user host port, Quick text user host port ∧ draft = quickDraft user host port

-- Some words in a row that no expression matches, with one @ in them: the last resort cuts at it.
def Misread (text : JsString) : Prop :=
  (∃ unit ∈ text, isSpace unit = true) ∧ (∀ expression ∈ expressions, exec expression text = none) ∧
    ∃ user host, user ≠ [] ∧ host ≠ [] ∧ 0x40 ∉ user ∧ 0x40 ∉ host ∧ text = user ++ (js "@" ++ host)

theorem quick_cases (text user host port : JsString) (quick : Quick text user host port) :
    (∀ unit ∈ text, isSpace unit = false) ∧ text = user ++ (js "@" ++ host) ∧ port = js "22" ∨
      ∃ expression ∈ expressions, ∃ groups, exec expression text = some groups := by
  cases quick with
  | userHost _ _ users hosts => exact .inl ⟨name_solid user host users hosts, rfl, rfl⟩
  | ssh space _ _ spaces users hosts =>
      exact .inr ⟨sshNoPort, by simp [expressions], _,
        (exec_noPort _ _).mpr ⟨space, user, host, spaces, users, hosts, rfl, rfl⟩⟩
  | portAfter space _ _ before after _ spaces users hosts befores afters ports =>
      exact .inr ⟨sshWithPortAfter, by simp [expressions], _, (exec_after _ _).mpr
        ⟨space, user, host, before, after, port, spaces, users, hosts, befores, afters, ports, rfl, rfl⟩⟩
  | portBefore space after _ between _ _ spaces afters ports betweens users hosts =>
      exact .inr ⟨sshWithPortBefore, by simp [expressions], _, (exec_before _ _).mpr
        ⟨space, after, port, between, user, host, spaces, afters, ports, betweens, users, hosts, rfl, rfl⟩⟩

theorem matched_or (text : JsString) : (∃ expression ∈ expressions, ∃ groups, exec expression text = some groups) ∨
    ∀ expression ∈ expressions, exec expression text = none := by
  by_cases matched : ∃ expression ∈ expressions, ∃ groups, exec expression text = some groups
  · exact .inl matched
  · exact .inr fun expression member =>
      Option.eq_none_iff_forall_ne_some.mpr fun groups found => matched ⟨expression, member, groups, found⟩

theorem unmatched_fallback (text : JsString) (unmatched : ∀ expression ∈ expressions, exec expression text = none) :
    parseQuickCommand text = parseUserHost text := by
  rw [parseQuickCommand, unmatched sshWithPortAfter (by simp [expressions]),
    unmatched sshWithPortBefore (by simp [expressions]), unmatched sshNoPort (by simp [expressions])]

theorem matched_right (text : JsString) (expression : List (Atom UInt16)) (member : expression ∈ expressions)
    (groups : List JsString) (found : exec expression text = some groups) : ReadsRight text := by
  obtain ⟨user, host, port, quick, parsed⟩ := command_quick text expression member groups found
  intro draft
  rw [parsed]
  constructor
  · intro same
    cases same
    exact ⟨user, host, port, quick, rfl⟩
  · rintro ⟨user', host', port', again, rfl⟩
    obtain ⟨rfl, rfl, rfl⟩ := quick_unique text user host port user' host' port' quick again
    rfl

theorem misread_wrong (text : JsString) (misread : Misread text) : ¬ ReadsRight text := by
  obtain ⟨⟨unit, member, space⟩, unmatched, user, host, before, behind, users, hosts, whole⟩ := misread
  intro right
  have parsed : parseQuickCommand text = some (quickDraft user host (js "22")) := by
    rw [unmatched_fallback text unmatched]
    exact (parseUserHost_iff text _).mpr ⟨user, host, before, behind, users, hosts, whole, rfl⟩
  obtain ⟨user', host', port', quick, _⟩ := (right _).mp parsed
  rcases quick_cases text user' host' port' quick with ⟨solid, _⟩ | ⟨expression, here, groups, found⟩
  · exact absurd space (by rw [solid unit member]; exact Bool.false_ne_true)
  · exact absurd found (by simp [unmatched expression here])

/-- The quick command is read as the grammar says, but for a text with white space that none of the
expressions matches and that has one @ inside: its two sides are taken for a user and a host. -/
theorem quick_command_grammar (text : JsString) : ReadsRight text ↔ ¬ Misread text := by
  refine ⟨fun right misread => misread_wrong text misread right, fun read => ?_⟩
  rcases matched_or text with ⟨expression, member, groups, found⟩ | unmatched
  · exact matched_right text expression member groups found
  · intro draft
    rw [unmatched_fallback text unmatched, parseUserHost_iff]
    constructor
    · rintro ⟨user, host, some, more, users, hosts, whole, rfl⟩
      have solid : ∀ unit ∈ text, isSpace unit = false := fun unit member => by
        cases space : isSpace unit with
        | false => rfl
        | true => exact absurd ⟨⟨unit, member, space⟩, unmatched, user, host, some, more, users, hosts, whole⟩ read
      have word (part : JsString) (bare : 0x40 ∉ part) (inside : part ⊆ text) :
          ∀ unit ∈ part, isWordUnit unit = true := fun unit member => by
        have other : unit ≠ 0x40 := fun same => bare (same ▸ member)
        simp [isWordUnit, solid unit (inside member), other]
      refine ⟨user, host, js "22", ?_, rfl⟩
      rw [whole]
      refine .userHost user host ⟨some, word user users ?_⟩ ⟨more, word host hosts ?_⟩
      · rw [whole]
        exact List.subset_append_left _ _
      · rw [whole, ← List.append_assoc]
        exact List.subset_append_right _ _
    · rintro ⟨user, host, port, quick, rfl⟩
      obtain ⟨users, hosts⟩ := quick_runs text user host port quick
      rcases quick_cases text user host port quick with ⟨_, whole, rfl⟩ | ⟨expression, member, groups, found⟩
      · exact ⟨user, host, users.nonempty, hosts.nonempty, word_bare user users, word_bare host hosts, whole, rfl⟩
      · exact absurd found (by simp [unmatched expression member])

-- A port that is no number: all that stands before the @ becomes the user.
theorem quick_command_misread :
    trim (js "ssh -p x root@h") = js "ssh -p x root@h" ∧ js "ssh -p x root@h" ≠ [] ∧
      parseQuickCommand (js "ssh -p x root@h") = some (quickDraft (js "ssh -p x root") (js "h") (js "22")) ∧
      ¬ ReadsRight (js "ssh -p x root@h") := by
  refine ⟨by decide, by decide, by decide, misread_wrong _ ⟨⟨0x20, by decide, by decide⟩, by decide, ?_⟩⟩
  exact ⟨js "ssh -p x root", js "h", by decide, by decide, by decide, by decide, by decide⟩

theorem quick_port_text (cmd : JsString) (draft : ConnectionDraft) (parsed : parseQuickCommand cmd = some draft) :
    ∃ text, draft.port = .text text := by
  rcases matched_or cmd with ⟨expression, member, groups, found⟩ | unmatched
  · obtain ⟨user, host, port, _, draftOf⟩ := command_quick cmd expression member groups found
    rw [parsed] at draftOf
    cases draftOf
    exact ⟨port, rfl⟩
  · rw [unmatched_fallback cmd unmatched] at parsed
    obtain ⟨user, host, _, _, _, _, _, rfl⟩ := (parseUserHost_iff cmd draft).mp parsed
    exact ⟨js "22", rfl⟩

theorem connect_opens (quickCmd : JsString) (s : Surroundings) :
    ∃ next, parseAndConnect quickCmd s = .ok next ∧
      (next.routes = s.routes ∧ next.currentDraft = s.currentDraft ∨
        ∃ draft port, parseQuickCommand (trim quickCmd) = some draft ∧ ConnectionStore.Valid draft port ∧
          next = { s with
            currentDraft := some { draft with host := trim draft.host, port := .text (decimal port),
                                              username := trim draft.username }
            routes := js "pages/AddHost" :: s.routes }) := by
  by_cases empty : (trim quickCmd).isEmpty = true
  · exact ⟨s, by rw [parseAndConnect, if_pos empty]; rfl, .inl ⟨rfl, rfl⟩⟩
  · rw [parseAndConnect, if_neg empty]
    cases parsed : parseQuickCommand (trim quickCmd) with
    | none => exact ⟨_, rfl, .inl ⟨rfl, rfl⟩⟩
    | some draft =>
        obtain ⟨text, port⟩ := quick_port_text _ draft parsed
        obtain ⟨validation, validated⟩ := ConnectionStore.validateDraft_text draft text port
        cases validation with
        | some message =>
            have nonempty : truthy (some message) = true := by
              simpa [truthy] using ConnectionStore.validateDraft_message draft message validated
            refine ⟨{ s with toasts := message :: s.toasts }, ?_, .inl ⟨rfl, rfl⟩⟩
            simp only [validated, bind, Except.bind, nonempty, if_true]
            rfl
        | none =>
            obtain ⟨number, valid⟩ := (ConnectionStore.validateDraft_none draft).mp validated
            refine ⟨_, ?_, .inr ⟨draft, number, rfl, valid, rfl⟩⟩
            simp only [validated, bind, Except.bind, ConnectionStore.normalizeDraft_port draft number valid.port_parsed]
            rfl

end SSHNewPage

end Kessh
