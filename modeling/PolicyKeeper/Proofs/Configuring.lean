import Mathlib.Data.List.Forall2
import PolicyKeeper.Deployment
import PolicyKeeper.Proofs.Setting.Reading
import PolicyKeeper.Proofs.Store.Running

/-!
# Which configurations are accepted

A configuration is judged in two rounds. First the properties that have to be there are looked at
together, and if some are lacking, all of these are reported and nothing else is. Then what is there
has to meet a list of conditions (`Settings.conditions`), and the first that it does not meet is
reported. So the judgement is the list: if a result is decided by it (`Config.Decided`), both which
configurations are accepted and what the others fail with can be read off.

A client asks for a user name and a password once more, but a configuration without them does not
get as far as that.
-/

namespace PolicyKeeper

open Settings (addressKey authTypeKey usernameKey passwordKey serviceKey serviceTypeKey timeoutKey
  retriesKey modeKey requiredKeys)

/-! ## Properties that are lacking -/

namespace Config

variable {c : Config} {key value : String} {keys : List String}

/-- The property is not there, or there is only white space. -/
def Lacks (c : Config) (key : String) : Prop :=
  ∀ value, c.get? key = some value → ∀ ch ∈ value.toList, Text.isBlank ch = true

theorem getFilled?_eq_none_iff : c.getFilled? key = none ↔ c.Lacks key := by
  rw [getFilled?, Option.filter_eq_none_iff]
  refine forall₂_congr fun value _ => ?_
  rw [Bool.not_eq_true', Bool.not_eq_false, Text.isAllBlank, List.all_eq_true]

theorem getFilled?_eq_some_iff : c.getFilled? key = some value
    ↔ c.get? key = some value ∧ Text.isAllBlank value = false := by
  rw [getFilled?, Option.filter_eq_some_iff, Bool.not_eq_true']

theorem mem_missing_iff : key ∈ c.missing keys ↔ key ∈ keys ∧ c.Lacks key := by
  rw [missing, List.mem_filter, Option.isNone_iff_eq_none, getFilled?_eq_none_iff]

theorem missing_eq_nil_iff : c.missing keys = [] ↔ ∀ key ∈ keys, ¬c.Lacks key := by
  rw [List.eq_nil_iff_forall_not_mem]
  exact forall_congr' fun key => mem_missing_iff.not.trans not_and

/-- **What is required is there**, each value for its key. -/
theorem forall₂_of_required {values : List String} (h : c.required keys = .ok values) :
    List.Forall₂ (fun key value => c.getFilled? key = some value) keys values := by
  rw [required] at h
  split at h
  · rename_i hmissing
    obtain rfl := Except.ok.inj h
    rw [missing_eq_nil_iff] at hmissing
    clear h
    induction keys with
    | nil => exact .nil
    | cons key keys ih =>
        rw [List.forall_mem_cons] at hmissing
        obtain ⟨value, hvalue⟩ := Option.ne_none_iff_exists'.mp fun hnone =>
          hmissing.1 (getFilled?_eq_none_iff.mp hnone)
        rw [List.filterMap_cons_some hvalue]
        exact .cons hvalue (ih hmissing.2)
  · cases h

/-! ## Conditions -/

/-- Something that is asked of a configuration, and what is reported if it is not so. -/
structure Condition where
  Holds : Config → Prop
  Reports : Config → Failure → Prop
  /-- There is one thing to report. -/
  unique : ∀ c f g, Reports c f → Reports c g → f = g

/-- The first condition that does not hold decides the result. -/
def Decided {α : Type} (c : Config) : List Condition → Except Failure α → Prop
  | [], r => ∃ a, r = .ok a
  | x :: xs, r => (x.Holds c ∧ c.Decided xs r) ∨ (¬x.Holds c ∧ ∃ f, x.Reports c f ∧ r = .error f)

variable {α β : Type} {r : Except Failure α} {xs : List Condition}

/-- **One judgement after the other**: the conditions of both, in order. -/
theorem Decided.bind (xs : List Condition) {ys : List Condition} {f : α → Except Failure β}
    (h : c.Decided xs r) (hf : ∀ a, r = .ok a → c.Decided ys (f a)) :
    c.Decided (xs ++ ys) (r >>= f) := by
  induction xs with
  | nil =>
      obtain ⟨a, rfl⟩ := h
      exact hf a rfl
  | cons x xs ih =>
      rcases h with ⟨hx, hrest⟩ | ⟨hx, e, he, rfl⟩
      · exact Or.inl ⟨hx, ih hrest⟩
      · exact Or.inr ⟨hx, e, he, rfl⟩

theorem Decided.ok_iff (h : c.Decided xs r) : (∃ a, r = .ok a) ↔ ∀ x ∈ xs, x.Holds c := by
  induction xs with
  | nil => exact iff_of_true h fun x hx => absurd hx List.not_mem_nil
  | cons x xs ih =>
      rw [List.forall_mem_cons]
      rcases h with ⟨hx, hrest⟩ | ⟨hx, e, -, rfl⟩
      · rw [ih hrest, and_iff_right hx]
      · exact iff_of_false (by simp) fun hall => hx hall.1

theorem Decided.error_iff {f : Failure} (h : c.Decided xs r) : r = .error f
    ↔ ∃ before x after, xs = before ++ x :: after ∧ (∀ y ∈ before, y.Holds c) ∧ ¬x.Holds c
      ∧ x.Reports c f := by
  induction xs with
  | nil =>
      obtain ⟨a, rfl⟩ := h
      exact iff_of_false (by simp) fun ⟨before, x, after, hnil, _⟩ => absurd hnil (by simp)
  | cons x xs ih =>
      rcases h with ⟨hx, hrest⟩ | ⟨hx, e, he, rfl⟩
      · rw [ih hrest]
        refine ⟨?_, ?_⟩
        · rintro ⟨before, y, after, rfl, hbefore, hy⟩
          exact ⟨x :: before, y, after, rfl, List.forall_mem_cons.mpr ⟨hx, hbefore⟩, hy⟩
        · -- the first condition holds, so it is among those before
          rintro ⟨_ | ⟨x', before⟩, y, after, hsplit, hbefore, hy⟩
          · obtain ⟨rfl, -⟩ := List.cons.inj hsplit
            exact absurd hx hy.1
          · obtain ⟨rfl, rfl⟩ := List.cons.inj hsplit
            exact ⟨before, y, after, rfl, (List.forall_mem_cons.mp hbefore).2, hy⟩
      · refine ⟨fun heq => ?_, ?_⟩
        · cases heq
          exact ⟨[], x, xs, rfl, fun y hy => absurd hy List.not_mem_nil, hx, he⟩
        · rintro ⟨_ | ⟨x', before⟩, y, after, hsplit, hbefore, hy⟩
          · obtain ⟨rfl, -⟩ := List.cons.inj hsplit
            rw [x.unique c e f he hy.2]
          · obtain ⟨rfl, -⟩ := List.cons.inj hsplit
            exact absurd (List.forall_mem_cons.mp hbefore).1 hx

end Config

namespace Settings

open Config (Condition)

variable {c : Config}

/-! ## The conditions that settings have to meet -/

/-- The address is a URL. -/
def addressParses : Condition where
  Holds c := ∃ text url, c.get? addressKey = some text ∧ Url.parse? text = some url
  Reports _ f := f = { tasks := [.parsingAddress addressKey], cause := .outside }
  unique _ _ _ hf hg := hf.trans hg.symm

/-- HTTP is spoken at the address. -/
def addressIsHttp : Condition where
  Holds c := ∀ text url, c.get? addressKey = some text → Url.parse? text = some url →
    url.scheme = "http" ∨ url.scheme = "https"
  Reports c f := ∃ text url, c.get? addressKey = some text ∧ Url.parse? text = some url
    ∧ f = .ofFault (.badSetting (.urlScheme addressKey url.render))
  unique := by
    rintro c _ _ ⟨text, url, htext, hurl, rfl⟩ ⟨text', url', htext', hurl', rfl⟩
    obtain rfl := Option.some.inj (htext.symm.trans htext')
    obtain rfl := Option.some.inj (hurl.symm.trans hurl')
    rfl

/-- Who one is, is proved the simple way, in any case. -/
def authIsSimple : Condition where
  Holds c := ∀ text, c.get? authTypeKey = some text → Text.lowerAscii text = "simple"
  Reports c f := ∃ text, c.get? authTypeKey = some text
    ∧ f = .ofFault (.badSetting (.authType authTypeKey text))
  unique := by
    rintro c _ _ ⟨text, htext, rfl⟩ ⟨text', htext', rfl⟩
    obtain rfl := Option.some.inj (htext.symm.trans htext')
    rfl

/-- An optional property is not there, or it fits once it is trimmed. The flaw that the reader finds
is reported, with the value as it is in the configuration. -/
def optionFits {α : Type} (key : String) (Fits : String → Prop)
    (read : String → Except ValueFlaw α) : Condition where
  Holds c := ∀ text, c.get? key = some text → Fits (Text.trim text)
  Reports c f := ∃ text flaw, c.get? key = some text ∧ read (Text.trim text) = .error flaw
    ∧ f = .ofFault (.badSetting (.unreadable key text flaw))
  unique := by
    rintro c _ _ ⟨text, flaw, htext, hflaw, rfl⟩ ⟨text', flaw', htext', hflaw', rfl⟩
    obtain rfl := Option.some.inj (htext.symm.trans htext')
    obtain rfl := Except.error.inj (hflaw.symm.trans hflaw')
    rfl

/-- What is asked of a configuration that lacks nothing, in order. -/
def conditions : List Condition :=
  [addressParses, addressIsHttp, authIsSimple,
    optionFits serviceTypeKey (fun text => Text.lowerAscii text ∈ ["hadoopsql", "hive", "hdfs"])
      ServiceType.read,
    optionFits timeoutKey (fun text => ∃ n, Bounds.word64.Writes text n) Bounds.word64.read,
    optionFits retriesKey (fun text => ∃ n, Bounds.word32.Writes text n) Bounds.word32.read,
    optionFits modeKey (fun text => Text.lowerAscii text ∈ ["role", "owner-placeholder"])
      GrantMode.read]

/-! ## Reading one thing after the other -/

variable {text value : String}

theorem decided_address (htext : c.get? addressKey = some text) :
    c.Decided [addressParses, addressIsHttp] (readAddress text) := by
  unfold readAddress
  cases hurl : Url.parse? text with
  | none =>
      refine Or.inr ⟨?_, _, rfl, rfl⟩
      rintro ⟨text', url, htext', hurl'⟩
      obtain rfl := Option.some.inj (htext.symm.trans htext')
      rw [hurl] at hurl'
      cases hurl'
  | some url =>
      refine Or.inl ⟨⟨text, url, htext, hurl⟩, ?_⟩
      dsimp only
      split
      · rename_i hscheme
        refine Or.inl ⟨fun text' url' htext' hurl' => ?_, url, rfl⟩
        obtain rfl := Option.some.inj (htext.symm.trans htext')
        obtain rfl := Option.some.inj (hurl.symm.trans hurl')
        exact hscheme
      · rename_i hscheme
        exact Or.inr ⟨fun h => hscheme (h text url htext hurl), _,
          ⟨text, url, htext, hurl, rfl⟩, rfl⟩

theorem decided_auth (htext : c.get? authTypeKey = some text) :
    c.Decided [authIsSimple] (Failure.ofResult (checkAuthType text)) := by
  unfold checkAuthType
  split
  · rename_i hsimple
    refine Or.inl ⟨fun text' htext' => ?_, (), rfl⟩
    obtain rfl := Option.some.inj (htext.symm.trans htext')
    exact hsimple
  · rename_i hother
    exact Or.inr ⟨fun h => hother (h text htext), _, ⟨text, htext, rfl⟩, rfl⟩

theorem decided_option {α : Type} {Fits : String → Prop} {read : String → Except ValueFlaw α}
    (hread : ∀ {text}, (∃ a, read text = .ok a) ↔ Fits text) (key : String) (default : α) :
    c.Decided [optionFits key Fits read] (Failure.ofResult (c.readOr key read default)) := by
  unfold Config.readOr
  cases htext : c.get? key with
  | none => exact Or.inl ⟨fun text htext' => absurd (htext.symm.trans htext') (by simp), _, rfl⟩
  | some text =>
      dsimp only
      cases hvalue : read (Text.trim text) with
      | ok a =>
          refine Or.inl ⟨fun text' htext' => ?_, a, rfl⟩
          obtain rfl := Option.some.inj (htext.symm.trans htext')
          exact hread.mp ⟨a, hvalue⟩
      | error flaw =>
          refine Or.inr ⟨fun h => ?_, _, ⟨text, flaw, htext, hvalue, rfl⟩, rfl⟩
          obtain ⟨a, ha⟩ := hread.mpr (h text htext)
          rw [hvalue] at ha
          cases ha

/-- Where something is lacking, nothing is read. -/
theorem read_of_lacking (defaultType : ServiceType) (h : c.missing requiredKeys ≠ []) :
    read defaultType c = .error (.ofFault (.missingSettings (c.missing requiredKeys))) := by
  have hrequired : c.required requiredKeys = .error (.missingSettings (c.missing requiredKeys)) :=
    if_neg h
  rw [read, hrequired]
  rfl

/-- The values of the required properties, in their order. -/
theorem eq_of_required {values : List String} (h : c.required requiredKeys = .ok values) :
    ∃ address authType username password service,
      values = [address, authType, username, password, service]
        ∧ c.getFilled? addressKey = some address ∧ c.getFilled? authTypeKey = some authType
        ∧ c.getFilled? usernameKey = some username ∧ c.getFilled? passwordKey = some password
        ∧ c.getFilled? serviceKey = some service := by
  obtain _ | ⟨haddress, _ | ⟨hauth, _ | ⟨husername, _ | ⟨hpassword, _ | ⟨hservice, _ | _⟩⟩⟩⟩⟩ :=
    Config.forall₂_of_required h
  exact ⟨_, _, _, _, _, rfl, haddress, hauth, husername, hpassword, hservice⟩

/-- **Where nothing is lacking**, the conditions decide. -/
theorem decided_read (defaultType : ServiceType) (h : ∀ key ∈ requiredKeys, ¬c.Lacks key) :
    c.Decided conditions (read defaultType c) := by
  obtain ⟨values, hrequired⟩ : ∃ values, c.required requiredKeys = .ok values :=
    ⟨_, if_pos (Config.missing_eq_nil_iff.mpr h)⟩
  obtain ⟨address, auth, _, _, _, rfl, haddress, hauth, -⟩ := eq_of_required hrequired
  have hnumber : ∀ b : Bounds, b.least = 0 → 0 ≤ b.greatest → ∀ {text},
      (∃ n, b.read text = .ok n) ↔ ∃ n, b.Writes text n :=
    fun b hleast hgreatest => exists_congr fun _ => Bounds.read_ok_iff hleast hgreatest
  rw [read, hrequired]
  change c.Decided conditions (readAddress address >>= _)
  -- the reader goes through the conditions in the order of the list, two of them for the address
  refine Config.Decided.bind [addressParses, addressIsHttp]
    (decided_address (Config.getFilled?_eq_some_iff.mp haddress).1) fun url _ => ?_
  refine Config.Decided.bind [authIsSimple]
    (decided_auth (Config.getFilled?_eq_some_iff.mp hauth).1) fun _ _ => ?_
  refine Config.Decided.bind [_] (decided_option ServiceType.read_ok_iff serviceTypeKey _)
    fun serviceType _ => ?_
  refine Config.Decided.bind [_] (decided_option (hnumber _ rfl (by decide)) timeoutKey _)
    fun timeout _ => ?_
  refine Config.Decided.bind [_] (decided_option (hnumber _ rfl (by decide)) retriesKey _)
    fun retries _ => ?_
  refine Config.Decided.bind [_] (decided_option GrantMode.read_ok_iff modeKey _)
    fun mode _ => ?_
  exact ⟨_, rfl⟩

/-! ## The credentials -/

theorem ok_of_bind {α β : Type} {r : Except Failure α} {f : α → Except Failure β} {b : β}
    (h : (r >>= f) = .ok b) : ∃ a, r = .ok a ∧ f a = .ok b := by
  cases r with
  | error e => cases h
  | ok a => exact ⟨a, rfl, h⟩

/-- The user name and the password are taken as they are. -/
theorem credentials_of_read {defaultType : ServiceType} {s : Settings}
    (h : read defaultType c = .ok s) :
    c.getFilled? usernameKey = some s.username ∧ c.getFilled? passwordKey = some s.password := by
  obtain ⟨values, hvalues, h⟩ := ok_of_bind h
  obtain ⟨_, _, _, _, _, rfl, -, -, husername, hpassword, -⟩ :=
    eq_of_required (Plan.ofResult_eq_ok hvalues)
  obtain ⟨_, -, h⟩ := ok_of_bind h
  obtain ⟨_, -, h⟩ := ok_of_bind h
  obtain ⟨_, -, h⟩ := ok_of_bind h
  obtain ⟨_, -, h⟩ := ok_of_bind h
  obtain ⟨_, -, h⟩ := ok_of_bind h
  obtain ⟨_, -, h⟩ := ok_of_bind h
  cases h
  exact ⟨husername, hpassword⟩

/-- **A client can be had for any settings that were read.** -/
theorem connect_of_read {defaultType : ServiceType} {s : Settings}
    (h : read defaultType c = .ok s) : Admin.Client.connect s.address s.username s.password
      = .ok { address := s.address.closed, username := s.username, password := s.password } := by
  have hfilled : ∀ {key value}, c.getFilled? key = some value → value.isEmpty = false := by
    intro key value hvalue
    have hblank := (Config.getFilled?_eq_some_iff.mp hvalue).2
    rw [← Bool.not_eq_true, String.isEmpty_iff]
    rintro rfl
    cases hblank
  obtain ⟨husername, hpassword⟩ := credentials_of_read h
  rw [Admin.Client.connect, hfilled husername, hfilled hpassword]
  rfl

end Settings

namespace Deployment

open Settings (conditions)

variable {c : Config} {defaultType : ServiceType}

theorem ofConfig_of_read {s : Settings} (h : Settings.read defaultType c = .ok s) :
    ∃ d, ofConfig defaultType c = .ok d := by
  unfold ofConfig
  rw [h]
  show ∃ d, (Admin.Client.connect s.address s.username s.password >>= _) = .ok d
  rw [Settings.connect_of_read h]
  exact ⟨_, rfl⟩

theorem ofConfig_of_error {f : Failure} (h : Settings.read defaultType c = .error f) :
    ofConfig defaultType c = .error (f.during .readingSettings) := by
  unfold ofConfig
  rw [h]
  rfl

/-- **A configuration is accepted exactly if it is complete and well formed.** For every
configuration, and whatever service type is taken by default:

* if required properties are lacking, exactly these are reported, in their order, whatever the
  others are like;
* if none is, the configuration is accepted exactly if it meets all conditions, and else the first
  that it does not meet says what is reported;
* the client takes the user name and the password of any settings that were read. -/
theorem accepted_exactly (defaultType : ServiceType) (c : Config) :
    (∃ keys, keys.Sublist requiredKeys ∧ (∀ key, key ∈ keys ↔ key ∈ requiredKeys ∧ c.Lacks key)
        ∧ (keys ≠ [] → ofConfig defaultType c
          = .error { tasks := [.readingSettings], cause := .fault (.missingSettings keys) }))
      ∧ ((∀ key ∈ requiredKeys, ¬c.Lacks key) →
        ((∃ d, ofConfig defaultType c = .ok d) ↔ ∀ x ∈ conditions, x.Holds c)
          ∧ ∀ f, ofConfig defaultType c = .error f ↔ ∃ before x after g,
            conditions = before ++ x :: after ∧ (∀ y ∈ before, y.Holds c) ∧ ¬x.Holds c
              ∧ x.Reports c g ∧ f = g.during .readingSettings)
      ∧ ∀ s, Settings.read defaultType c = .ok s →
        ∃ client, Admin.Client.connect s.address s.username s.password = .ok client := by
  refine ⟨⟨c.missing requiredKeys, List.filter_sublist, fun _ => Config.mem_missing_iff,
    fun hlacking => ofConfig_of_error (Settings.read_of_lacking defaultType hlacking)⟩,
    fun hcomplete => ?_, fun s hread => ⟨_, Settings.connect_of_read hread⟩⟩
  have hdecided := Settings.decided_read defaultType hcomplete
  cases hread : Settings.read defaultType c with
  | ok s =>
      rw [hread] at hdecided
      obtain ⟨d, hd⟩ := ofConfig_of_read hread
      refine ⟨?_, fun f => ?_⟩
      · rw [← hdecided.ok_iff, hd]
        exact iff_of_true ⟨d, rfl⟩ ⟨s, rfl⟩
      · rw [hd]
        refine iff_of_false (by simp) ?_
        rintro ⟨before, x, after, g, hsplit, hbefore, hx, hreports, _⟩
        exact absurd (hdecided.error_iff.mpr ⟨before, x, after, hsplit, hbefore, hx, hreports⟩)
          (by simp)
  | error g =>
      rw [hread] at hdecided
      -- what is reported says in addition that settings were being read
      rw [ofConfig_of_error hread]
      refine ⟨?_, fun f => ⟨fun heq => ?_, ?_⟩⟩
      · rw [← hdecided.ok_iff]
        simp
      · obtain ⟨before, x, after, hsplit, hbefore, hx, hreports⟩ := hdecided.error_iff.mp rfl
        exact ⟨before, x, after, g, hsplit, hbefore, hx, hreports, (Except.error.inj heq).symm⟩
      · rintro ⟨before, x, after, g', hsplit, hbefore, hx, hreports, rfl⟩
        rw [Except.error.inj
          (hdecided.error_iff.mpr ⟨before, x, after, hsplit, hbefore, hx, hreports⟩)]

theorem exists_ok {α : Type} {r : Except Failure α} (h : r.toOption.isSome = true) :
    ∃ a, r = .ok a := by
  cases r with
  | error f => exact absurd h (by simp [Except.toOption])
  | ok a => exact ⟨a, rfl⟩

/-- A configuration that lacks a password, as blank as it is, and has no address to speak of. -/
def muddled : Config :=
  { provider := "hive"
    properties := Fields.ofPairs [(addressKey, "next door"), (authTypeKey, "kerberos"),
      (usernameKey, "admin"), (passwordKey, " \u3000"), (serviceKey, "hiveDev"),
      (retriesKey, "-1")] }

/-- The same with a password and an address. -/
def plain (auth : String) (options : List (String × String)) : Config :=
  { provider := "hive"
    properties := Fields.ofPairs ([(addressKey, "http://[::1]:6080"), (authTypeKey, auth),
      (usernameKey, "admin"), (passwordKey, "secret"), (serviceKey, "hiveDev")] ++ options) }

/-- That address. -/
def nearby : Url :=
  { scheme := "http", authority := some { host := "[::1]", port := some 6080 }
    path := .segments [""] }

def kerberized : Config := plain "kerberos" [(retriesKey, "-1")]

def tidy : Config := plain "Simple" [(serviceTypeKey, " HIVE\n"), (retriesKey, "+007")]

/-- Of the first it is said that the password is lacking, and nothing else. With a password the way
to prove who one is comes before the number, and with both put right there is nothing to object. -/
theorem accepted_exactly_tidy :
    (∃ keys, passwordKey ∈ keys ∧ addressKey ∉ keys ∧ ofConfig .hadoopSql muddled
        = .error { tasks := [.readingSettings], cause := .fault (.missingSettings keys) })
      ∧ ofConfig .hadoopSql kerberized = .error
        { tasks := [.readingSettings]
          cause := .fault (.badSetting (.authType authTypeKey "kerberos")) }
      ∧ (∃ d, ofConfig .hadoopSql tidy = .ok d) ∧ ∀ x ∈ conditions, x.Holds tidy := by
  have hcomplete : ∀ c ∈ [kerberized, tidy], ∀ key ∈ requiredKeys, c.getFilled? key ≠ none := by
    decide +kernel
  have hcomplete : ∀ c ∈ [kerberized, tidy], ∀ key ∈ requiredKeys, ¬c.Lacks key :=
    fun c hc key hkey hlacks => hcomplete c hc key hkey (Config.getFilled?_eq_none_iff.mpr hlacks)
  refine ⟨?_, ?_, ?_⟩
  · obtain ⟨⟨keys, -, hkeys, hreports⟩, -, -⟩ := accepted_exactly .hadoopSql muddled
    have hpassword : passwordKey ∈ keys := (hkeys passwordKey).mpr
      ⟨by decide, Config.getFilled?_eq_none_iff.mp (by decide +kernel)⟩
    refine ⟨keys, hpassword, fun haddress => ?_, hreports (List.ne_nil_of_mem hpassword)⟩
    have hlacks := Config.getFilled?_eq_none_iff.mpr ((hkeys addressKey).mp haddress).2
    exact absurd hlacks (by decide +kernel)
  · have haddress : kerberized.get? addressKey = some "http://[::1]:6080" := by rfl
    have hparse : Url.parse? "http://[::1]:6080" = some nearby := by decide +kernel
    have hauth : kerberized.get? authTypeKey = some "kerberos" := by rfl
    have hbefore : ∀ y ∈ [Settings.addressParses, Settings.addressIsHttp], y.Holds kerberized := by
      refine List.forall_mem_cons.mpr ⟨⟨_, _, haddress, hparse⟩, List.forall_mem_singleton.mpr ?_⟩
      intro text url htext hurl
      obtain rfl := Option.some.inj (haddress.symm.trans htext)
      obtain rfl := Option.some.inj (hparse.symm.trans hurl)
      exact Or.inl rfl
    refine ((accepted_exactly .hadoopSql kerberized).2.1 (hcomplete _ (by simp))).2 _ |>.mpr
      ⟨_, Settings.authIsSimple, _, _, rfl, hbefore, fun h => ?_, ⟨_, hauth, rfl⟩, rfl⟩
    exact absurd (h _ hauth) (by decide)
  · have haccepted : ∃ d, ofConfig .hadoopSql tidy = .ok d := exists_ok (by decide +kernel)
    exact ⟨haccepted, ((accepted_exactly .hadoopSql tidy).2.1
      (hcomplete tidy (by simp))).1.mp haccepted⟩

end Deployment

end PolicyKeeper
