import Gralloc.Format.Capabilities
import Gralloc.Resource.Attempts

/-!
# Where the capabilities come from

The capabilities of an IP block are looked for in a directory of the platform. Its entries are gone
through in the order in which the system returns them; files that are not regular, or have another
extension, are passed over. The first file that has something to say about the block ends the
search, and so does the first one that cannot be parsed, with nothing found
(`Gralloc.findIpCapabilities`). A block of which nothing is found supports everything, but for the
GPU, without which the process aborts (`Gralloc.ipSupportFeatureIn`).

The answers do not depend on the order exactly when the files that end a search for a block forbid
the same (`Gralloc.ipSupportFeatureIn_perm_iff`). A file that cannot be parsed hides the files
behind it, whatever block they are about, and so makes nothing unsupported that was supported
before (`Gralloc.ipSupportFeatureIn_of_unparsed`).
-/

namespace Gralloc

/-! ### Files -/

/-- The blocks that a file may name. -/
inductive XmlIp where
  | gpu
  | dpu
  | dpuAeu
  | vpu
  | cam
  | unknown
  deriving DecidableEq, Repr

/-- A feature in a file, whose name and permission may be unknown. -/
structure XmlFeature where
  name : Option Feature
  permission : Option Permission
  deriving DecidableEq, Repr

/-- What a file says of a block. -/
structure XmlCapabilities where
  ip : XmlIp
  features : List XmlFeature
  deriving DecidableEq, Repr

/-- The type of an entry, if the directory tells. -/
inductive FileType where
  | unknown
  | regular
  | other
  deriving DecidableEq, Repr

/-- **An entry of a directory.** -/
structure Dirent where
  name : List Char
  type : FileType
  /-- Whether the file is a regular one, if that can be found out. -/
  stat : Option Bool
  /-- What the file says, if it can be parsed. -/
  content : Option (List XmlCapabilities)
  deriving DecidableEq, Repr

/-- What follows the last dot of a name, if anything does. -/
def getFileExtension (fileName : List Char) : Option (List Char) :=
  match fileName.reverse.span (· != '.') with
  | (_, []) => none
  | ([], _ :: _) => none
  | (extension, _ :: _) => some extension.reverse

/-- The entry is a regular file, as far as is known. -/
def Dirent.isRegularFile (entry : Dirent) : Bool :=
  match entry.type with
  | .unknown => entry.stat.getD false
  | .regular => true
  | .other => false

def convertGrallocIpToCapabilitiesTypeIp (ip : Ip) : XmlIp :=
  if ip = Ip.gpu then .gpu
  else if ip = Ip.dpu then .dpu
  else if ip = Ip.dpuAeu then .dpuAeu
  else if ip = Ip.vpu then .vpu
  else if ip = Ip.cam then .cam
  else .unknown

/-! ### The search -/

section

variable (ip : Ip)

def findIpCapabilitiesInConfig (caps : List XmlCapabilities) : Option XmlCapabilities :=
  let currentIp := convertGrallocIpToCapabilitiesTypeIp ip
  if currentIp = .unknown then none else caps.find? fun capability => capability.ip == currentIp

/-- **The capabilities of a block**, by the entries of the directory. -/
def findIpCapabilities : List Dirent → Option XmlCapabilities
  | [] => none
  | entry :: entries =>
    if entry.isRegularFile then
      if (getFileExtension entry.name).getD [] = ['x', 'm', 'l'] then
        match entry.content with
        | none => none
        | some configFile =>
          match findIpCapabilitiesInConfig ip configFile with
          | some caps => some caps
          | none => findIpCapabilities entries
      else findIpCapabilities entries
    else findIpCapabilities entries

/-- What an entry does to the search: it may end it, with or without capabilities. -/
def examine (entry : Dirent) : Option (Option XmlCapabilities) :=
  if entry.isRegularFile = true ∧ (getFileExtension entry.name).getD [] = ['x', 'm', 'l'] then
    match entry.content with
    | none => some none
    | some configFile => (findIpCapabilitiesInConfig ip configFile).map some
  else none

end

section

variable {ip : Ip} {entries entries' : List Dirent} {bad : Dirent}

/-- **The search ends at the first entry that ends it.** -/
theorem findIpCapabilities_eq (ip : Ip) (entries : List Dirent) :
    findIpCapabilities ip entries = (entries.findSome? (examine ip)).join := by
  induction entries with
  | nil => rfl
  | cons entry entries ih =>
    rw [findIpCapabilities, List.findSome?_cons, examine]
    by_cases hfile : entry.isRegularFile = true
    · by_cases hname : (getFileExtension entry.name).getD [] = ['x', 'm', 'l']
      · rw [if_pos hfile, if_pos hname, if_pos ⟨hfile, hname⟩]
        cases entry.content with
        | none => rfl
        | some configFile =>
          cases hfound : findIpCapabilitiesInConfig ip configFile with
          | none => simpa [hfound] using ih
          | some caps => simp [hfound]
      · rw [if_pos hfile, if_neg hname, if_neg fun h => hname h.2, ih]
    · rw [if_neg hfile, if_neg fun h => hfile h.1, ih]

/-- A file that cannot be parsed, among those that are looked into. -/
structure Dirent.Unparsed (entry : Dirent) : Prop where
  regular : entry.isRegularFile = true
  extension : getFileExtension entry.name = some ['x', 'm', 'l']
  content : entry.content = none

theorem Dirent.Unparsed.examine (h : bad.Unparsed) (ip : Ip) :
    Gralloc.examine ip bad = some none := by
  rw [Gralloc.examine, if_pos ⟨h.regular, by rw [h.extension]; rfl⟩, h.content]

/-- **A file that cannot be parsed hides all that come after it**, and no other. -/
theorem findIpCapabilities_of_unparsed (h : bad.Unparsed) :
    findIpCapabilities ip (entries ++ bad :: entries') = findIpCapabilities ip entries := by
  rw [findIpCapabilities_eq, findIpCapabilities_eq, List.findSome?_append, List.findSome?_cons,
    h.examine]
  cases entries.findSome? (Gralloc.examine ip) <;> rfl

end

/-! ### Support -/

/-- What a block would do with a feature. -/
inductive Access where
  | read
  | write
  deriving DecidableEq, Repr

def Permission.allows (permission : Permission) : Access → Bool
  | .read => permission.readable
  | .write => permission.writeable

/-- **Whether a feature is supported**: its first entry decides, and an unknown permission is
none. -/
def XmlCapabilities.isFeatureSupported (caps : XmlCapabilities) (feature : Feature)
    (access : Access) : Bool :=
  match caps.features.find? fun xmlFeature => xmlFeature.name == some feature with
  | none => false
  | some xmlFeature => (xmlFeature.permission.getD .no).allows access

section

variable (found : Ip → Option XmlCapabilities) (producers consumers : Ip) (feature : Feature)

/-- The blocks are asked one after the other; without the GPU there is no answer. -/
def supportLoop : List Ip → Option Bool
  | [] => some true
  | ip :: ips =>
    match found ip with
    | none => if ip = Ip.gpu then none else supportLoop ips
    | some caps =>
      if producers.contains ip && !caps.isFeatureSupported feature .write then some false
      else if consumers.contains ip && !caps.isFeatureSupported feature .read then some false
      else supportLoop ips

/-- The blocks that may have capabilities, but for the GPU. -/
def optionalIps : List Ip := [Ip.dpu, Ip.dpuAeu, Ip.vpu, Ip.cam]

/-- The CPU cannot use the feature. -/
def cpuRefuses : Bool :=
  (producers.contains Ip.cpu || consumers.contains Ip.cpu) && !capsSupportsFeatureCpu feature

/-- **Whether all the producers and consumers support a feature**, by what every block finds. There
is no answer where the process aborts. -/
def ipSupportFeatureBy : Option Bool :=
  if cpuRefuses producers consumers feature then some false
  else supportLoop found producers consumers feature (Ip.gpu :: optionalIps)

end

/-- **By the directory**, that every block reads in an order of its own, if it can be opened. -/
def ipSupportFeatureIn (dir : Ip → Option (List Dirent)) (producers consumers : Ip)
    (feature : Feature) : Option Bool :=
  ipSupportFeatureBy (fun ip => (dir ip).bind (findIpCapabilities ip)) producers consumers feature

/-- What is found forbids an access; if nothing is found, nothing is forbidden. -/
def forbids (caps : Option XmlCapabilities) (feature : Feature) (access : Access) : Bool :=
  match caps with
  | none => false
  | some caps => !caps.isFeatureSupported feature access

section

variable (found found' : Ip → Option XmlCapabilities) (producers consumers : Ip)
  (feature : Feature)

/-- A block refuses a feature: a producer cannot write, or a consumer cannot read. -/
def refuses (ip : Ip) : Bool :=
  producers.contains ip && forbids (found ip) feature .write ||
    consumers.contains ip && forbids (found ip) feature .read

theorem supportLoop_of_optional {ips : List Ip} (hips : Ip.gpu ∉ ips) :
    supportLoop found producers consumers feature ips =
      some (ips.all fun ip => !refuses found producers consumers feature ip) := by
  induction ips with
  | nil => rfl
  | cons ip ips ih =>
    obtain ⟨hne, hips⟩ := not_or.mp (mt List.mem_cons.mpr hips)
    rw [supportLoop, ih hips, List.all_cons]
    cases hfound : found ip with
    | none =>
      simp only [if_neg (Ne.symm hne), refuses, forbids, hfound]
      simp
    | some caps =>
      simp only [refuses, forbids, hfound]
      cases producers.contains ip && !caps.isFeatureSupported feature .write <;>
        cases consumers.contains ip && !caps.isFeatureSupported feature .read <;> simp

/-- **The answer**: that of the CPU, none without the GPU, and else whether no block refuses. -/
theorem ipSupportFeatureBy_eq :
    ipSupportFeatureBy found producers consumers feature =
      if cpuRefuses producers consumers feature = true then some false
      else if found Ip.gpu = none then none
      else some ((Ip.gpu :: optionalIps).all fun ip =>
        !refuses found producers consumers feature ip) := by
  unfold ipSupportFeatureBy
  refine if_congr Iff.rfl rfl ?_
  rw [supportLoop, supportLoop_of_optional _ _ _ _ (by decide), List.all_cons]
  cases hfound : found Ip.gpu with
  | none => rw [if_pos rfl, if_pos rfl]
  | some caps =>
    rw [if_neg (Option.some_ne_none _)]
    simp only [refuses, forbids, hfound]
    cases producers.contains Ip.gpu && !caps.isFeatureSupported feature .write <;>
      cases consumers.contains Ip.gpu && !caps.isFeatureSupported feature .read <;> simp

end

/-! ### The platform -/

/-- The features that are known, with what is permitted. -/
def XmlCapabilities.toIpCapabilities (caps : XmlCapabilities) : IpCapabilities :=
  caps.features.filterMap fun xmlFeature =>
    xmlFeature.name.map fun name => (name, xmlFeature.permission.getD .no)

/-- **The platform that the files describe**, if it has a GPU. -/
def platformCapabilities (found : Ip → Option XmlCapabilities) : Option Capabilities :=
  (found Ip.gpu).map fun gpu =>
    { gpu := gpu.toIpCapabilities
      dpu := (found Ip.dpu).map XmlCapabilities.toIpCapabilities
      dpuAeu := (found Ip.dpuAeu).map XmlCapabilities.toIpCapabilities
      vpu := (found Ip.vpu).map XmlCapabilities.toIpCapabilities
      cam := (found Ip.cam).map XmlCapabilities.toIpCapabilities }

/-- A feature is permitted as the file says, by induction on its features. -/
theorem allows_permission (caps : XmlCapabilities) (feature : Feature) (access : Access) :
    (caps.toIpCapabilities.permission feature).allows access =
      caps.isFeatureSupported feature access := by
  obtain ⟨ip, features⟩ := caps
  unfold XmlCapabilities.isFeatureSupported XmlCapabilities.toIpCapabilities
    IpCapabilities.permission
  dsimp only
  induction features with
  | nil => cases access <;> rfl
  | cons xmlFeature features ih =>
    cases hname : xmlFeature.name with
    | none => simpa [hname] using ih
    | some name =>
      by_cases heq : name = feature
      · simp [hname, heq]
      · simpa [hname, heq] using ih

section

variable (found : Ip → Option XmlCapabilities) (producers consumers : Ip) (feature : Feature)

/-- The blocks that have capabilities are those of which something is found. -/
theorem handles_all (P : Ip × IpCapabilities → Bool) {gpu : XmlCapabilities}
    (hgpu : found Ip.gpu = some gpu) {caps : Capabilities}
    (hcaps : platformCapabilities found = some caps) :
    caps.handles.all P = (Ip.gpu :: optionalIps).all fun ip =>
      (found ip).elim true fun c => P (ip, c.toIpCapabilities) := by
  rw [platformCapabilities, hgpu, Option.map_some, Option.some_inj] at hcaps
  have hlist : caps.handles = (Ip.gpu, gpu.toIpCapabilities) ::
      (optionalIps.map fun ip => (ip, (found ip).map XmlCapabilities.toIpCapabilities)).filterMap
        fun e => e.2.map fun c => (e.1, c) := by
    rw [← hcaps]
    rfl
  rw [hlist, List.all_cons, List.all_cons, hgpu, List.filterMap_map, List.all_filterMap]
  refine congrArg (P (Ip.gpu, gpu.toIpCapabilities) && ·) (List.all_congr rfl fun ip => ?_)
  cases hip : found ip <;> simp [hip]

/-- **What the files say is what the platform is**: the answers are those of its capabilities. -/
theorem ipSupportFeatureBy_eq_map :
    ipSupportFeatureBy found producers consumers feature =
      if cpuRefuses producers consumers feature = true then some false
      else (platformCapabilities found).map fun caps =>
        ipSupportFeature caps producers consumers feature := by
  rw [ipSupportFeatureBy_eq]
  refine ite_congr rfl (fun _ => rfl) fun hcpu => ?_
  cases hgpu : found Ip.gpu with
  | none =>
    rw [if_pos rfl, platformCapabilities, hgpu]
    rfl
  | some gpu =>
    obtain ⟨caps, hcaps⟩ : ∃ caps, platformCapabilities found = some caps := by
      rw [platformCapabilities, hgpu]
      exact ⟨_, rfl⟩
    unfold cpuRefuses at hcpu
    rw [if_neg (Option.some_ne_none _), hcaps, Option.map_some, Option.some_inj, ipSupportFeature,
      if_neg hcpu, handles_all found _ hgpu hcaps]
    refine congrArg (List.all _) (funext fun ip => ?_)
    cases hip : found ip with
    | none => simp [refuses, forbids, hip]
    | some c =>
      have hwrite := allows_permission c feature .write
      have hread := allows_permission c feature .read
      simp only [Permission.allows] at hwrite hread
      simp [refuses, forbids, hip, hwrite, hread]

end

/-! ### A file that cannot be parsed -/

section

variable {found found' : Ip → Option XmlCapabilities} {producers consumers : Ip}
  {feature : Feature}

/-- **Who finds less supports more**, or aborts: what is refused then is refused by all. -/
theorem ipSupportFeatureBy_eq_false_of_less (hless : ∀ ip, found ip = none ∨ found ip = found' ip)
    (h : ipSupportFeatureBy found producers consumers feature = some false) :
    ipSupportFeatureBy found' producers consumers feature = some false := by
  rw [ipSupportFeatureBy_eq] at h ⊢
  split_ifs at h ⊢ with hcpu hgpu' hgpu
  · rfl
  · rcases hless Ip.gpu with hnone | heq
    · exact absurd hnone hgpu
    · exact absurd (heq.trans hgpu') hgpu
  · -- a block that refuses has found something
    rw [Option.some_inj, List.all_eq_false] at h ⊢
    obtain ⟨ip, hip, hrefuses⟩ := h
    refine ⟨ip, hip, ?_⟩
    rcases hless ip with hnone | heq
    · simp [refuses, forbids, hnone] at hrefuses
    · rwa [refuses, heq] at hrefuses

/-- **A file that cannot be parsed**, wherever a search comes upon it, counts for the files behind
it, and no file that was read before; so nothing is refused that was not refused without it. -/
theorem ipSupportFeatureIn_of_unparsed {bad : Dirent} (hbad : bad.Unparsed)
    (before after : Ip → List Dirent) (producers consumers : Ip) (feature : Feature) :
    ipSupportFeatureIn (fun ip => some (before ip ++ bad :: after ip)) producers consumers feature =
        ipSupportFeatureIn (fun ip => some (before ip)) producers consumers feature ∧
      (ipSupportFeatureIn (fun ip => some (before ip ++ bad :: after ip)) producers consumers
          feature = some false →
        ipSupportFeatureIn (fun ip => some (before ip ++ after ip)) producers consumers feature =
          some false) := by
  have hhidden : (fun ip => (some (before ip ++ bad :: after ip)).bind (findIpCapabilities ip)) =
      fun ip => (some (before ip)).bind (findIpCapabilities ip) := by
    funext ip
    exact findIpCapabilities_of_unparsed hbad
  unfold ipSupportFeatureIn
  rw [hhidden]
  refine ⟨rfl, ipSupportFeatureBy_eq_false_of_less fun ip => ?_⟩
  show findIpCapabilities ip (before ip) = none ∨
    findIpCapabilities ip (before ip) = findIpCapabilities ip (before ip ++ after ip)
  rw [findIpCapabilities_eq, findIpCapabilities_eq, List.findSome?_append]
  cases (before ip).findSome? (examine ip) with
  | none => exact Or.inl rfl
  | some x => exact Or.inr rfl

end

/-- A file about one feature of a block, and one that cannot be parsed. -/
def featureFile (ip : XmlIp) (permission : Permission) : Dirent where
  name := ['a', '.', 'x', 'm', 'l']
  type := .regular
  stat := none
  content := some [⟨ip, [⟨some .afbc16x16, some permission⟩]⟩]

def brokenFile : Dirent := ⟨['b', '.', 'x', 'm', 'l'], .unknown, some true, none⟩

/-- The file of the display comes after a broken one: what it forbids is supported. -/
theorem ipSupportFeatureIn_of_unparsed_display :
    ipSupportFeatureIn (fun _ => some ([featureFile .gpu .rw] ++ brokenFile ::
        [featureFile .dpu .no])) Ip.gpu Ip.dpu .afbc16x16 = some true ∧
      ipSupportFeatureIn (fun _ => some ([featureFile .gpu .rw] ++ [featureFile .dpu .no])) Ip.gpu
        Ip.dpu .afbc16x16 = some false :=
  have hbroken : brokenFile.Unparsed := ⟨rfl, rfl, rfl⟩
  ⟨(ipSupportFeatureIn_of_unparsed hbroken (fun _ => _) (fun _ => _) _ _ _).1.trans (by decide),
    by decide⟩

/-! ### The order of the files -/

/-- An entry of a directory ends the search for a block so. -/
def Ends (ip : Ip) (entries : List Dirent) (caps : Option XmlCapabilities) : Prop :=
  ∃ entry ∈ entries, examine ip entry = some caps

/-- **The files of a directory say the same** of a block, where more than one of them may end the
search for it: whether there are capabilities of the GPU, and what is forbidden. -/
structure Harmonious (entries : List Dirent) : Prop where
  gpu : ∀ x y, Ends Ip.gpu entries x → Ends Ip.gpu entries y →
    x.isSome = y.isSome ∧ ∀ feature access, forbids x feature access = forbids y feature access
  /-- Without a GPU the others are not asked. -/
  optional : (∃ caps, Ends Ip.gpu entries (some caps)) → ∀ ip ∈ optionalIps, ∀ x y,
    Ends ip entries x → Ends ip entries y →
      ∀ feature access, forbids x feature access = forbids y feature access

section

variable {entries : List Dirent} {ip : Ip} {x : Option XmlCapabilities}

/-- Whatever ends the search may be the first to do so. -/
theorem Ends.exists_perm (h : Ends ip entries x) :
    ∃ l : List Dirent, l.Perm entries ∧ findIpCapabilities ip l = x := by
  obtain ⟨entry, hmem, hexamine⟩ := h
  obtain ⟨l, hl, hfirst⟩ := Resource.exists_perm_findSome? hmem hexamine
  refine ⟨l, hl, ?_⟩
  rw [findIpCapabilities_eq, hfirst]
  rfl

/-- In every order the search is ended by some entry, or in every order by none. -/
theorem ends_or_none (ip : Ip) (entries : List Dirent) :
    (∀ l : List Dirent, l.Perm entries → Ends ip entries (findIpCapabilities ip l)) ∨
      ∀ l : List Dirent, l.Perm entries → findIpCapabilities ip l = none := by
  by_cases h : ∃ x, Ends ip entries x
  · obtain ⟨x, entry, hmem, hexamine⟩ := h
    refine Or.inl fun l hl => ?_
    rw [findIpCapabilities_eq]
    cases hfirst : l.findSome? (examine ip) with
    | none =>
      rw [List.findSome?_eq_none_iff.mp hfirst entry (hl.mem_iff.mpr hmem)] at hexamine
      cases hexamine
    | some y =>
      obtain ⟨entry', hmem', hexamine'⟩ := List.exists_of_findSome?_eq_some hfirst
      exact ⟨entry', hl.mem_iff.mp hmem', hexamine'⟩
  · refine Or.inr fun l hl => ?_
    have hnone : l.findSome? (examine ip) = none := by
      rw [List.findSome?_eq_none_iff]
      intro entry hmem
      cases hexamine : examine ip entry with
      | none => rfl
      | some y => exact absurd ⟨y, entry, hl.mem_iff.mp hmem, hexamine⟩ h
    rw [findIpCapabilities_eq, hnone]
    rfl

/-- The producers and consumers of a request that is about one block. -/
def Access.producers (ip : Ip) : Access → Ip
  | .read => Ip.none
  | .write => ip

def Access.consumers (ip : Ip) : Access → Ip
  | .read => ip
  | .write => Ip.none

/-- **A question about one block** is answered by what is found for it. -/
theorem ipSupportFeatureBy_of_access (found : Ip → Option XmlCapabilities)
    (hip : ip ∈ Ip.gpu :: optionalIps) (feature : Feature) (access : Access) :
    ipSupportFeatureBy found (access.producers ip) (access.consumers ip) feature =
      if found Ip.gpu = none then none else some (!forbids (found ip) feature access) := by
  have hcpu : ip.contains Ip.cpu = false := by
    have hall : (Ip.gpu :: optionalIps).all (fun ip => !ip.contains Ip.cpu) = true := by decide
    simpa using List.all_eq_true.mp hall ip hip
  have hother : ∀ ip' ∈ Ip.gpu :: optionalIps, ip.contains ip' = decide (ip' = ip) := by
    have hall : (Ip.gpu :: optionalIps).all (fun ip => (Ip.gpu :: optionalIps).all fun ip' =>
        ip.contains ip' == decide (ip' = ip)) = true := by decide
    intro ip' hip'
    simpa using List.all_eq_true.mp (List.all_eq_true.mp hall ip hip) ip' hip'
  have hnone (ip' : Ip) : Ip.none.contains ip' = false := by
    rw [Ip.contains, Ip.none, BitVec.and_zero]
    rfl
  have hrefuses : ∀ ip' ∈ Ip.gpu :: optionalIps,
      refuses found (access.producers ip) (access.consumers ip) feature ip' =
        (decide (ip' = ip) && forbids (found ip') feature access) := by
    intro ip' hip'
    cases access <;>
      simp only [refuses, Access.producers, Access.consumers, hnone, hother ip' hip',
        Bool.false_and, Bool.or_false, Bool.false_or]
  rw [ipSupportFeatureBy_eq, if_neg]
  · refine if_congr Iff.rfl rfl (congrArg some ?_)
    rw [Bool.eq_iff_iff, List.all_eq_true]
    constructor
    · intro h
      have hall := h ip hip
      rwa [hrefuses ip hip, decide_eq_true rfl, Bool.true_and] at hall
    · intro h ip' hip'
      rw [hrefuses ip' hip']
      by_cases heq : ip' = ip
      · rwa [heq, decide_eq_true rfl, Bool.true_and]
      · rw [decide_eq_false heq, Bool.false_and, Bool.not_false]
  · cases access <;> simp [cpuRefuses, Access.producers, Access.consumers, hnone, hcpu]

/-- **No order is seen** in the answers, in whatever orders the blocks read the files. -/
def OrderFree (entries : List Dirent) : Prop :=
  ∀ d d' : Ip → List Dirent, (∀ ip, (d ip).Perm entries) → (∀ ip, (d' ip).Perm entries) →
    ∀ producers consumers feature,
      ipSupportFeatureIn (fun ip => some (d ip)) producers consumers feature =
        ipSupportFeatureIn (fun ip => some (d' ip)) producers consumers feature

/-- Two orders for one block, with the same order for the others. -/
theorem OrderFree.ask (h : OrderFree entries) {l l' lgpu : List Dirent} (hl : l.Perm entries)
    (hl' : l'.Perm entries) (hgpu : lgpu.Perm entries) (ip producers consumers : Ip)
    (feature : Feature) :
    ipSupportFeatureBy (fun j => findIpCapabilities j (if j = ip then l else lgpu)) producers
        consumers feature =
      ipSupportFeatureBy (fun j => findIpCapabilities j (if j = ip then l' else lgpu)) producers
        consumers feature := by
  refine h (fun j => if j = ip then l else lgpu) (fun j => if j = ip then l' else lgpu) ?_ ?_
    producers consumers feature
  · intro j
    split_ifs <;> assumption
  · intro j
    split_ifs <;> assumption

/-- Then the files say the same of the GPU. -/
theorem OrderFree.gpu (h : OrderFree entries) {y : Option XmlCapabilities}
    (hx : Ends Ip.gpu entries x) (hy : Ends Ip.gpu entries y) :
    x.isSome = y.isSome ∧ ∀ feature access, forbids x feature access = forbids y feature access := by
  obtain ⟨l, hl, rfl⟩ := hx.exists_perm
  obtain ⟨l', hl', rfl⟩ := hy.exists_perm
  have hboth (feature : Feature) (access : Access) := h.ask hl hl' hl Ip.gpu
    (access.producers Ip.gpu) (access.consumers Ip.gpu) feature
  simp only [ipSupportFeatureBy_of_access _ List.mem_cons_self, if_true] at hboth
  generalize findIpCapabilities Ip.gpu l = x at hboth ⊢
  generalize findIpCapabilities Ip.gpu l' = y at hboth ⊢
  cases x with
  | none =>
    cases y with
    | none => exact ⟨rfl, fun _ _ => rfl⟩
    | some c => cases hboth .disabled .read
  | some c =>
    cases y with
    | none => cases hboth .disabled .read
    | some c' =>
      refine ⟨rfl, fun feature access => ?_⟩
      have hsome := hboth feature access
      rw [if_neg (Option.some_ne_none _), if_neg (Option.some_ne_none _), Option.some_inj] at hsome
      exact Bool.not_inj hsome

/-- And of the others, if there may be a GPU. -/
theorem OrderFree.optional (h : OrderFree entries) {caps : XmlCapabilities}
    (hcaps : Ends Ip.gpu entries (some caps)) (hip : ip ∈ optionalIps) {y : Option XmlCapabilities}
    (hx : Ends ip entries x) (hy : Ends ip entries y) (feature : Feature) (access : Access) :
    forbids x feature access = forbids y feature access := by
  obtain ⟨lgpu, hgpu, hfound⟩ := hcaps.exists_perm
  obtain ⟨l, hl, rfl⟩ := hx.exists_perm
  obtain ⟨l', hl', rfl⟩ := hy.exists_perm
  have hne : Ip.gpu ≠ ip := by
    rintro rfl
    exact absurd hip (by decide)
  have hboth := h.ask hl hl' hgpu ip (access.producers ip) (access.consumers ip) feature
  rw [ipSupportFeatureBy_of_access _ (List.mem_cons_of_mem _ hip),
    ipSupportFeatureBy_of_access _ (List.mem_cons_of_mem _ hip)] at hboth
  simp only [if_neg hne, hfound, Option.some_ne_none, if_false, if_true, Option.some_inj] at hboth
  exact Bool.not_inj hboth

/-- **Files that say the same** may be read in any orders. -/
theorem Harmonious.orderFree (h : Harmonious entries) : OrderFree entries := by
  intro d d' hd hd' producers consumers feature
  have hsame (ip : Ip) (hends : ∀ x y, Ends ip entries x → Ends ip entries y →
      ∀ feature access, forbids x feature access = forbids y feature access) (access : Access) :
      forbids (findIpCapabilities ip (d ip)) feature access =
        forbids (findIpCapabilities ip (d' ip)) feature access := by
    rcases ends_or_none ip entries with hall | hnone
    · exact hends _ _ (hall _ (hd ip)) (hall _ (hd' ip)) feature access
    · rw [hnone _ (hd ip), hnone _ (hd' ip)]
  have hgpu : findIpCapabilities Ip.gpu (d Ip.gpu) = none ↔
      findIpCapabilities Ip.gpu (d' Ip.gpu) = none := by
    rcases ends_or_none Ip.gpu entries with hall | hnone
    · have hsome := (h.gpu _ _ (hall _ (hd Ip.gpu)) (hall _ (hd' Ip.gpu))).1
      rw [← Option.not_isSome_iff_eq_none, ← Option.not_isSome_iff_eq_none, hsome]
    · rw [hnone _ (hd Ip.gpu), hnone _ (hd' Ip.gpu)]
  show ipSupportFeatureBy (fun ip => findIpCapabilities ip (d ip)) producers consumers feature =
    ipSupportFeatureBy (fun ip => findIpCapabilities ip (d' ip)) producers consumers feature
  rw [ipSupportFeatureBy_eq, ipSupportFeatureBy_eq]
  refine if_congr Iff.rfl rfl ?_
  by_cases hnone : findIpCapabilities Ip.gpu (d Ip.gpu) = none
  · rw [if_pos hnone, if_pos (hgpu.mp hnone)]
  · rw [if_neg hnone, if_neg (mt hgpu.mpr hnone)]
    -- there is a GPU, and the others count
    obtain ⟨caps, hcaps⟩ := Option.ne_none_iff_exists'.mp hnone
    have hends : Ends Ip.gpu entries (some caps) := by
      rcases ends_or_none Ip.gpu entries with hall | hnever
      · exact hcaps ▸ hall _ (hd Ip.gpu)
      · exact absurd (hnever _ (hd Ip.gpu)) hnone
    have hforbids : ∀ ip ∈ Ip.gpu :: optionalIps, ∀ access,
        forbids (findIpCapabilities ip (d ip)) feature access =
          forbids (findIpCapabilities ip (d' ip)) feature access := by
      intro ip hip access
      rcases List.mem_cons.mp hip with rfl | hip
      · exact hsame Ip.gpu (fun x y hx hy => (h.gpu x y hx hy).2) access
      · exact hsame ip (h.optional ⟨caps, hends⟩ ip hip) access
    refine congrArg some (Bool.eq_iff_iff.mpr ?_)
    rw [List.all_eq_true, List.all_eq_true]
    refine forall₂_congr fun ip hip => ?_
    rw [refuses, refuses, hforbids ip hip, hforbids ip hip]

/-- **The order of the files does not matter**, in whatever orders the blocks read them, exactly
when the files say the same. -/
theorem ipSupportFeatureIn_perm_iff (entries : List Dirent) :
    (∀ d d' : Ip → List Dirent, (∀ ip, (d ip).Perm entries) → (∀ ip, (d' ip).Perm entries) →
      ∀ producers consumers feature,
        ipSupportFeatureIn (fun ip => some (d ip)) producers consumers feature =
          ipSupportFeatureIn (fun ip => some (d' ip)) producers consumers feature) ↔
      Harmonious entries := by
  constructor
  · intro h
    have hfree : OrderFree entries := h
    refine ⟨fun _ _ hx hy => hfree.gpu hx hy, ?_⟩
    rintro ⟨caps, hcaps⟩ ip hip x y hx hy feature access
    exact hfree.optional hcaps hip hx hy feature access
  · exact Harmonious.orderFree

end

end Gralloc
