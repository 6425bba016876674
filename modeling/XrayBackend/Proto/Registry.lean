import XrayBackend.Proto.Wire

/-!
# The hand-built schemas (`_register_proto_definitions`)

No generated stubs exist for Xray's `HandlerService`, so `app/xray_client.py` builds the
`FileDescriptorProto`s of the five messages it needs by hand and adds them to the runtime's
default descriptor pool, each block skipped when its message is already known and each file
added only when no file of its name is loaded.

The pool is modelled as the list of files it has loaded, and `Add` as the runtime's upb backend
(the Python runtime's default since protobuf 4.21) runs it: a file equal to the loaded one of
its name is ignored; otherwise upb's builder checks, in this order, that the file's name is new,
that its dependencies are loaded, that none of its names is defined, and that the message type
each of its fields names resolves, and Python raises a refusal as a `TypeError` whose text is
`BuildError.message`.

Registration is idempotent: once it has succeeded, running it again changes nothing and raises
nothing.  On every pool it raises one of seven errors only, since each probe guards against a
duplicate of itself, and it succeeds exactly on the pools `RegistrationSucceeds` describes.  The
blocks probe by message name, but the handler file depends on the user file by file name and
resolves `User` by message name, so a pool that holds one of the two without the other makes it
raise.  On a pool that has loaded nothing of Xray's it appends the three files, and every name
they define then resolves as in the registered default pool.
-/

namespace XrayBackend.Proto

/-- The field types the schemas use. -/
inductive FieldType
  | string
  | uint32
  | message
  | bytes
  deriving DecidableEq, Repr

/-- `FieldDescriptorProto`; every field here is `LABEL_OPTIONAL`, the only label the code sets. -/
structure FieldDescriptorProto where
  name : String
  number : Nat
  type : FieldType
  typeName : String
  deriving DecidableEq, Repr

/-- `DescriptorProto`. -/
structure DescriptorProto where
  name : String
  field : List FieldDescriptorProto
  deriving DecidableEq, Repr

/-- `FileDescriptorProto`. -/
structure FileDescriptorProto where
  name : String
  package : String
  dependency : List String
  messageType : List DescriptorProto
  deriving DecidableEq, Repr

/-- A descriptor pool: the files it has loaded, oldest first. -/
structure DescriptorPool where
  files : List FileDescriptorProto
  deriving DecidableEq, Repr

/-- A field that carries no message type. -/
def scalarField (name : String) (number : Nat) (type : FieldType) : FieldDescriptorProto :=
  ⟨name, number, type, ""⟩

/-- `google/protobuf/any.proto`, which the runtime loads with `any_pb2`. -/
def anyFile : FileDescriptorProto :=
  ⟨"google/protobuf/any.proto", "google.protobuf", [],
    [⟨"Any", [scalarField "type_url" 1 .string, scalarField "value" 2 .bytes]⟩]⟩

/-- `descriptor_pool.Default()` when this module is imported: the well-known `Any` is loaded. -/
def defaultPool : DescriptorPool := ⟨[anyFile]⟩

/-- The full name upb gives a declaration of a package; the bare name outside any package. -/
def qualifiedName (package name : String) : String :=
  if package = "" then name else package ++ "." ++ name

namespace DescriptorPool

/-- The fully qualified names a file defines, in the order upb inserts them. -/
def symbols (file : FileDescriptorProto) : List String :=
  file.messageType.map (qualifiedName file.package ·.name)

/-- `pool.FindFileByName(name)`; `none` where the runtime raises `KeyError`. -/
def findFileByName (pool : DescriptorPool) (name : String) : Option FileDescriptorProto :=
  pool.files.find? (·.name = name)

/-- `pool.FindMessageTypeByName(full_name)`; `none` where the runtime raises `KeyError`. -/
def findMessageTypeByName (pool : DescriptorPool) (fullName : String) : Option DescriptorProto :=
  pool.files.findSome? fun f => f.messageType.find? (qualifiedName f.package ·.name = fullName)

end DescriptorPool

/-! ## `Add`, as the upb runtime runs it -/

/-- Why upb's builder refuses a file. -/
inductive BuildError
  | duplicateFile (name : String)
  | missingDependency (name : String)
  | duplicateSymbol (name : String)
  | unresolvedName (name : String)
  deriving DecidableEq, Repr

namespace BuildError

/-- The status upb sets for each refusal. -/
def status : BuildError → String
  | duplicateFile name => s!"duplicate file name {name}"
  | missingDependency name => s!"Depends on file '{name}', but it has not been loaded"
  | duplicateSymbol name => s!"duplicate symbol '{name}'"
  | unresolvedName name => s!"couldn't resolve name '{name}'"

/-- The text of the `TypeError` the Python runtime raises when upb refuses a file. -/
def message (e : BuildError) : String :=
  "Couldn't build proto file into descriptor pool: " ++ e.status

end BuildError

namespace DescriptorPool

/-- The first of `names` already defined, by `defined` or earlier in `names`: upb inserts a
file's names one by one and refuses the first one its table holds. -/
def firstDuplicate (defined : String → Bool) : List String → Option String
  | [] => none
  | s :: rest => if defined s then some s else firstDuplicate (fun t => t == s || defined t) rest

/-- The scopes `_upb_DefBuilder_ResolveAny` tries a relative type name in, innermost first: the
scope, the scope cut at each of its dots after the first character (`remove_component`), and the
top level. -/
def enclosingScopes (scope : List Char) : List (List Char) :=
  match scope with
  | [] => [[]]
  | _ => scope :: ((List.range scope.length).reverse.filter
      fun i => 0 < i && scope[i]? == some '.').map scope.take ++ [[]]

/-- The names upb looks up for the type name `sym` of a field of the message `base`: the rest of
`sym` when it starts with a dot, otherwise `sym` in each scope enclosing `base`. -/
def resolveCandidates (base sym : String) : List String :=
  match sym.data with
  | [] => []
  | '.' :: rest => [⟨rest⟩]
  | _ => (enclosingScopes base.data).map fun scope =>
      if scope = [] then sym else ⟨scope⟩ ++ "." ++ sym

/-- Whether the type name `sym` of a field of the message `base` names a message of `pool`. -/
def resolves (pool : DescriptorPool) (base sym : String) : Bool :=
  (resolveCandidates base sym).any fun n => (pool.findMessageTypeByName n).isSome

/-- The type names of the message fields of `file`, in order, each with the full name of the
message that declares the field. -/
def typeRefs (file : FileDescriptorProto) : List (String × String) :=
  file.messageType.flatMap fun m => (m.field.filter (·.type == .message)).map fun f =>
    (qualifiedName file.package m.name, f.typeName)

/-- The first type name of `file` that does not resolve in `pool`. -/
def firstUnresolved (pool : DescriptorPool) (file : FileDescriptorProto) : Option String :=
  ((typeRefs file).find? fun r => !pool.resolves r.1 r.2).map Prod.snd

/-- The first check of upb's `upb_DefPool_AddFile` that `file` fails against `pool`, in upb's
order: its name is new, its dependencies are loaded, its names are new, and its fields' type
names resolve once its own names are in. -/
def buildError (pool : DescriptorPool) (file : FileDescriptorProto) : Option BuildError :=
  (if (pool.findFileByName file.name).isSome then some (.duplicateFile file.name) else none).or <|
    ((file.dependency.find? fun d => (pool.findFileByName d).isNone).map .missingDependency).or <|
    ((firstDuplicate (fun s => (pool.findMessageTypeByName s).isSome) (symbols file)).map
      .duplicateSymbol).or <|
    (firstUnresolved ⟨pool.files ++ [file]⟩ file).map .unresolvedName

/-- `upb_DefPool_AddFile`: the pool with `file` loaded after the others, unless a check fails. -/
def addFile (pool : DescriptorPool) (file : FileDescriptorProto) :
    Except BuildError DescriptorPool :=
  match pool.buildError file with
  | some e => .error e
  | none => .ok ⟨pool.files ++ [file]⟩

/-- `pool.Add(file_proto)`: a file equal to the loaded file of its name is ignored, and anything
else goes to upb's builder. -/
def add (pool : DescriptorPool) (file : FileDescriptorProto) : Except BuildError DescriptorPool :=
  if pool.findFileByName file.name = some file then .ok pool else pool.addFile file

end DescriptorPool

open DescriptorPool

/-- `_ensure_descriptor(pool, file_proto)`. -/
def ensureDescriptor (pool : DescriptorPool) (file : FileDescriptorProto) :
    Except BuildError DescriptorPool :=
  match pool.findFileByName file.name with
  | some _ => .ok pool
  | none => pool.add file

/-- The file `_register_proto_definitions` builds for the VLESS account. -/
def accountFile : FileDescriptorProto :=
  ⟨"xray_proxy_vless.proto", "xray.proxy.vless", [],
    [⟨"Account", [scalarField "id" 1 .string, scalarField "flow" 2 .string,
      scalarField "encryption" 3 .string]⟩]⟩

/-- The file `_register_proto_definitions` builds for the shared user record. -/
def userFile : FileDescriptorProto :=
  ⟨"xray_common_protocol.proto", "xray.common.protocol", ["google/protobuf/any.proto"],
    [⟨"User", [scalarField "email" 1 .string, scalarField "level" 2 .uint32,
      scalarField "alter_id" 3 .uint32, ⟨"account", 4, .message, ".google.protobuf.Any"⟩]⟩]⟩

/-- The file `_register_proto_definitions` builds for the handler service's messages. -/
def handlerFile : FileDescriptorProto :=
  ⟨"xray_proxyman_command.proto", "xray.app.proxyman.command", ["xray_common_protocol.proto"],
    [⟨"AddUserRequest", [scalarField "tag" 1 .string,
        ⟨"user", 2, .message, ".xray.common.protocol.User"⟩]⟩,
      ⟨"AddUserResponse", []⟩,
      ⟨"RemoveUserRequest", [scalarField "tag" 1 .string, scalarField "email" 2 .string]⟩,
      ⟨"RemoveUserResponse", []⟩]⟩

/-- One block of `_register_proto_definitions`: skipped when its message is known. -/
def registerBlock (pool : DescriptorPool) (probe : String) (file : FileDescriptorProto) :
    Except BuildError DescriptorPool :=
  if (pool.findMessageTypeByName probe).isSome then .ok pool else ensureDescriptor pool file

/-- `_register_proto_definitions()` on a pool. -/
def registerProtoDefinitions (pool : DescriptorPool) : Except BuildError DescriptorPool := do
  let pool ← registerBlock pool "xray.proxy.vless.Account" accountFile
  let pool ← registerBlock pool "xray.common.protocol.User" userFile
  registerBlock pool "xray.app.proxyman.command.AddUserRequest" handlerFile

/-- The pool after the module-level call on the default pool. -/
def registeredPool : DescriptorPool := ⟨[anyFile, accountFile, userFile, handlerFile]⟩

/-- On the default pool, registration loads the three files in order. -/
theorem registerProtoDefinitions_defaultPool :
    registerProtoDefinitions defaultPool = .ok registeredPool := by
  rfl

/-! ## What each of upb's checks says -/

namespace DescriptorPool

theorem findFileByName_append (fs l : List FileDescriptorProto) (name : String) :
    findFileByName ⟨fs ++ l⟩ name = (findFileByName ⟨fs⟩ name).or (findFileByName ⟨l⟩ name) :=
  List.find?_append

theorem findMessageTypeByName_append (fs l : List FileDescriptorProto) (name : String) :
    findMessageTypeByName ⟨fs ++ l⟩ name =
      (findMessageTypeByName ⟨fs⟩ name).or (findMessageTypeByName ⟨l⟩ name) :=
  List.findSome?_append

/-- Loading a file changes only the lookups of its own name. -/
theorem findFileByName_append_of_ne {pool : DescriptorPool} {file : FileDescriptorProto}
    {name : String} (h : file.name ≠ name) :
    findFileByName ⟨pool.files ++ [file]⟩ name = pool.findFileByName name := by
  simp [findFileByName_append, findFileByName, h]

theorem findFileByName_append_self (pool : DescriptorPool) (file : FileDescriptorProto) :
    (findFileByName ⟨pool.files ++ [file]⟩ file.name).isSome := by
  cases h : pool.findFileByName file.name <;> simp_all [findFileByName_append, findFileByName]

/-- Loading a file changes only the lookups of the names it defines. -/
theorem findMessageTypeByName_append_of_not_mem {pool : DescriptorPool}
    {file : FileDescriptorProto} {name : String} (h : name ∉ symbols file) :
    findMessageTypeByName ⟨pool.files ++ [file]⟩ name = pool.findMessageTypeByName name := by
  have hfile : findMessageTypeByName ⟨[file]⟩ name = none := by
    simpa [findMessageTypeByName, symbols, List.find?_eq_none] using h
  rw [findMessageTypeByName_append, hfile, Option.or_none]

theorem firstDuplicate_eq_none_iff {defined : String → Bool} {names : List String} :
    firstDuplicate defined names = none ↔ names.Nodup ∧ ∀ s ∈ names, defined s = false := by
  induction names generalizing defined with
  | nil => simp [firstDuplicate]
  | cons s rest ih =>
    by_cases hs : defined s
    · simp [firstDuplicate, hs]
    · simp only [firstDuplicate, hs, Bool.false_eq_true, if_false, ih, List.nodup_cons,
        List.forall_mem_cons, Bool.or_eq_false_iff, beq_eq_false_iff_ne, true_and, imp_and,
        forall_and, List.forall_mem_ne', and_assoc]
      exact and_left_comm

theorem firstUnresolved_eq_none_iff {pool : DescriptorPool} {file : FileDescriptorProto} :
    firstUnresolved pool file = none ↔ ∀ r ∈ typeRefs file, pool.resolves r.1 r.2 = true := by
  simp [firstUnresolved, List.find?_eq_none]

/-- An absolute type name resolves exactly when it names a message. -/
theorem resolves_absolute (pool : DescriptorPool) (base name : String) :
    pool.resolves base ("." ++ name) = (pool.findMessageTypeByName name).isSome := by
  simp [resolves, resolveCandidates, String.append]

/-- upb accepts a file exactly when its name is new, its dependencies are loaded, its names are
distinct and new, and its fields' type names resolve once its own names are in. -/
theorem buildError_eq_none_iff {pool : DescriptorPool} {file : FileDescriptorProto} :
    pool.buildError file = none ↔
      pool.findFileByName file.name = none ∧
        (∀ d ∈ file.dependency, (pool.findFileByName d).isSome) ∧
        (symbols file).Nodup ∧ (∀ s ∈ symbols file, pool.findMessageTypeByName s = none) ∧
        ∀ r ∈ typeRefs file, resolves ⟨pool.files ++ [file]⟩ r.1 r.2 = true := by
  simp [buildError, firstDuplicate_eq_none_iff, firstUnresolved_eq_none_iff, List.find?_eq_none,
    Option.isSome_iff_ne_none, and_assoc]

/-- `Add` of a file whose name is not loaded is upb's builder. -/
theorem add_of_unloaded {pool : DescriptorPool} {file : FileDescriptorProto}
    (h : pool.findFileByName file.name = none) : pool.add file = pool.addFile file := by
  simp [add, h]

end DescriptorPool

/-! ## The three hand-built files against upb's checks -/

theorem symbols_accountFile : symbols accountFile = ["xray.proxy.vless.Account"] := rfl

theorem symbols_userFile : symbols userFile = ["xray.common.protocol.User"] := rfl

theorem symbols_handlerFile : symbols handlerFile =
    ["xray.app.proxyman.command.AddUserRequest", "xray.app.proxyman.command.AddUserResponse",
      "xray.app.proxyman.command.RemoveUserRequest",
      "xray.app.proxyman.command.RemoveUserResponse"] := rfl

theorem typeRefs_accountFile : typeRefs accountFile = [] := rfl

theorem typeRefs_userFile :
    typeRefs userFile = [("xray.common.protocol.User", ".google.protobuf.Any")] := rfl

theorem typeRefs_handlerFile : typeRefs handlerFile =
    [("xray.app.proxyman.command.AddUserRequest", ".xray.common.protocol.User")] := rfl

section Append

variable (pool : DescriptorPool)

/-! Appending a hand-built file changes only the lookups of its own name and messages. -/

theorem findFileByName_append_accountFile {name : String} (h : name ≠ "xray_proxy_vless.proto") :
    findFileByName ⟨pool.files ++ [accountFile]⟩ name = pool.findFileByName name :=
  findFileByName_append_of_ne (Ne.symm h)

theorem findMessageTypeByName_append_accountFile {name : String}
    (h : name ≠ "xray.proxy.vless.Account") :
    findMessageTypeByName ⟨pool.files ++ [accountFile]⟩ name = pool.findMessageTypeByName name :=
  findMessageTypeByName_append_of_not_mem (by simpa [symbols_accountFile] using h)

theorem findMessageTypeByName_append_userFile {name : String}
    (h : name ≠ "xray.common.protocol.User") :
    findMessageTypeByName ⟨pool.files ++ [userFile]⟩ name = pool.findMessageTypeByName name :=
  findMessageTypeByName_append_of_not_mem (by simpa [symbols_userFile] using h)

theorem findMessageTypeByName_append_handlerFile {name : String} (h : name ∉ symbols handlerFile) :
    findMessageTypeByName ⟨pool.files ++ [handlerFile]⟩ name = pool.findMessageTypeByName name :=
  findMessageTypeByName_append_of_not_mem h

end Append

/-- upb accepts the account file exactly when neither its name nor `Account` is loaded. -/
theorem buildError_accountFile_eq_none_iff {pool : DescriptorPool} :
    pool.buildError accountFile = none ↔
      pool.findFileByName "xray_proxy_vless.proto" = none ∧
        pool.findMessageTypeByName "xray.proxy.vless.Account" = none := by
  rw [buildError_eq_none_iff, symbols_accountFile, typeRefs_accountFile]
  simp [accountFile]

/-- upb accepts the user file exactly when its name and `User` are new, and `Any`'s file and
`Any`, which its `account` field names, are loaded. -/
theorem buildError_userFile_eq_none_iff {pool : DescriptorPool} :
    pool.buildError userFile = none ↔
      pool.findFileByName "xray_common_protocol.proto" = none ∧
        (pool.findFileByName "google/protobuf/any.proto").isSome ∧
        pool.findMessageTypeByName "xray.common.protocol.User" = none ∧
        (pool.findMessageTypeByName "google.protobuf.Any").isSome := by
  have hany : resolves ⟨pool.files ++ [userFile]⟩ "xray.common.protocol.User"
      ".google.protobuf.Any" = (pool.findMessageTypeByName "google.protobuf.Any").isSome := by
    rw [show ".google.protobuf.Any" = "." ++ "google.protobuf.Any" from rfl, resolves_absolute,
      findMessageTypeByName_append_userFile pool (by decide)]
  rw [buildError_eq_none_iff, symbols_userFile, typeRefs_userFile]
  simp only [hany, List.mem_singleton, forall_eq, List.nodup_cons, List.not_mem_nil,
    not_false_eq_true, List.nodup_nil, and_self, true_and,
    show userFile.name = "xray_common_protocol.proto" from rfl,
    show userFile.dependency = ["google/protobuf/any.proto"] from rfl]

/-- upb accepts the handler file exactly when its name and its four messages are new, the user
file is loaded by its name, and `User`, which `AddUserRequest.user` names, is known. -/
theorem buildError_handlerFile_eq_none_iff {pool : DescriptorPool} :
    pool.buildError handlerFile = none ↔
      pool.findFileByName "xray_proxyman_command.proto" = none ∧
        (pool.findFileByName "xray_common_protocol.proto").isSome ∧
        (∀ s ∈ symbols handlerFile, pool.findMessageTypeByName s = none) ∧
        (pool.findMessageTypeByName "xray.common.protocol.User").isSome := by
  have huser : resolves ⟨pool.files ++ [handlerFile]⟩ "xray.app.proxyman.command.AddUserRequest"
      ".xray.common.protocol.User" =
      (pool.findMessageTypeByName "xray.common.protocol.User").isSome := by
    rw [show ".xray.common.protocol.User" = "." ++ "xray.common.protocol.User" from rfl,
      resolves_absolute, findMessageTypeByName_append_handlerFile pool (by decide)]
  have hnd : (symbols handlerFile).Nodup := by decide
  rw [buildError_eq_none_iff, typeRefs_handlerFile]
  simp only [hnd, huser, List.mem_singleton, forall_eq, true_and,
    show handlerFile.name = "xray_proxyman_command.proto" from rfl,
    show handlerFile.dependency = ["xray_common_protocol.proto"] from rfl]

/-! ## Idempotence -/

namespace DescriptorPool

/-- `q` has loaded every file of `p`, in order, and possibly more after them. -/
def Extends (p q : DescriptorPool) : Prop := ∃ l, q.files = p.files ++ l

theorem Extends.refl (p : DescriptorPool) : p.Extends p := ⟨[], by simp⟩

theorem findFileByName_of_extends {p q : DescriptorPool} (h : p.Extends q) {name : String}
    (hf : (p.findFileByName name).isSome) : (q.findFileByName name).isSome := by
  obtain ⟨l, hl⟩ := h
  obtain ⟨f, hf⟩ := Option.isSome_iff_exists.mp hf
  rw [show q = ⟨p.files ++ l⟩ from congrArg mk hl, findFileByName_append]
  simp [show findFileByName ⟨p.files⟩ name = some f from hf]

theorem findMessageTypeByName_of_extends {p q : DescriptorPool} (h : p.Extends q) {name : String}
    (hf : (p.findMessageTypeByName name).isSome) : (q.findMessageTypeByName name).isSome := by
  obtain ⟨l, hl⟩ := h
  obtain ⟨m, hm⟩ := Option.isSome_iff_exists.mp hf
  rw [show q = ⟨p.files ++ l⟩ from congrArg mk hl, findMessageTypeByName_append]
  simp [show findMessageTypeByName ⟨p.files⟩ name = some m from hm]

end DescriptorPool

/-- A block has nothing left to do: its message is known, or a file of its name is loaded. -/
def Settled (pool : DescriptorPool) (probe : String) (file : FileDescriptorProto) : Prop :=
  (pool.findMessageTypeByName probe).isSome ∨ (pool.findFileByName file.name).isSome

theorem Settled.of_extends {p q : DescriptorPool} {probe : String} {file : FileDescriptorProto}
    (h : Settled p probe file) (hpq : p.Extends q) : Settled q probe file :=
  h.imp (findMessageTypeByName_of_extends hpq) (findFileByName_of_extends hpq)

theorem registerBlock_of_settled {p : DescriptorPool} {probe : String}
    {file : FileDescriptorProto} (h : Settled p probe file) :
    registerBlock p probe file = .ok p := by
  unfold registerBlock ensureDescriptor
  rcases h with h | h
  · rw [if_pos h]
  · split_ifs
    · rfl
    · obtain ⟨f, hf⟩ := Option.isSome_iff_exists.mp h
      rw [hf]

/-- A block whose message and file are unknown is upb's builder on its file. -/
theorem registerBlock_of_unknown {p : DescriptorPool} {probe : String} {file : FileDescriptorProto}
    (hprobe : p.findMessageTypeByName probe = none) (hfile : p.findFileByName file.name = none) :
    registerBlock p probe file = p.addFile file := by
  rw [registerBlock, ensureDescriptor, hprobe, hfile, add_of_unloaded hfile]
  rfl

/-- A block that succeeds leaves its pool extended and itself settled. -/
theorem registerBlock_settles {p q : DescriptorPool} {probe : String} {file : FileDescriptorProto}
    (h : registerBlock p probe file = .ok q) : p.Extends q ∧ Settled q probe file := by
  by_cases hs : Settled p probe file
  · rw [registerBlock_of_settled hs] at h
    cases h
    exact ⟨Extends.refl p, hs⟩
  · obtain ⟨hprobe, hfile⟩ := not_or.mp hs
    rw [registerBlock_of_unknown (Option.not_isSome_iff_eq_none.mp hprobe)
      (Option.not_isSome_iff_eq_none.mp hfile), addFile] at h
    split at h
    · cases h
    · cases h
      exact ⟨⟨[file], rfl⟩, .inr (findFileByName_append_self p file)⟩

/-- Once `_register_proto_definitions` has succeeded on a pool, calling it again, from any
other client instance, changes nothing and raises nothing. -/
theorem registerProtoDefinitions_idempotent {p q : DescriptorPool}
    (h : registerProtoDefinitions p = .ok q) : registerProtoDefinitions q = .ok q := by
  simp only [registerProtoDefinitions, bind, Except.bind] at h
  split at h
  · cases h
  · rename_i p1 h1
    split at h
    · cases h
    · rename_i p2 h2
      obtain ⟨e1, s1⟩ := registerBlock_settles h1
      obtain ⟨e2, s2⟩ := registerBlock_settles h2
      obtain ⟨e3, s3⟩ := registerBlock_settles h
      have e23 : p2.Extends q := e3
      simp only [registerProtoDefinitions, bind, Except.bind,
        registerBlock_of_settled ((s1.of_extends e2).of_extends e23),
        registerBlock_of_settled (s2.of_extends e23), registerBlock_of_settled s3]

theorem registerProtoDefinitions_idempotent_default :
    registerProtoDefinitions defaultPool = .ok registeredPool ∧
      registerProtoDefinitions registeredPool = .ok registeredPool :=
  ⟨registerProtoDefinitions_defaultPool,
    registerProtoDefinitions_idempotent registerProtoDefinitions_defaultPool⟩

/-! ## What registration can raise, on every pool -/

/-- A block whose message is unknown and whose file upb accepts appends its file. -/
theorem registerBlock_append {pool : DescriptorPool} {probe : String} {file : FileDescriptorProto}
    (hprobe : pool.findMessageTypeByName probe = none) (hbuild : pool.buildError file = none) :
    registerBlock pool probe file = .ok ⟨pool.files ++ [file]⟩ := by
  rw [registerBlock_of_unknown hprobe (buildError_eq_none_iff.mp hbuild).1, addFile, hbuild]

/-- The three files `_register_proto_definitions` builds, in the order it adds them. -/
def handBuiltFiles : List FileDescriptorProto := [accountFile, userFile, handlerFile]

/-- A pool as the runtime may hold it before this module runs: `Any`'s file is loaded, with the
default pool's `Any`, and nothing of Xray's is, neither a file of the three names nor a name
the three files define. -/
structure Fresh (pool : DescriptorPool) : Prop where
  anyFile : (pool.findFileByName "google/protobuf/any.proto").isSome
  any : pool.findMessageTypeByName "google.protobuf.Any" =
    defaultPool.findMessageTypeByName "google.protobuf.Any"
  files : ∀ f ∈ handBuiltFiles, pool.findFileByName f.name = none
  names : ∀ f ∈ handBuiltFiles, ∀ s ∈ symbols f, pool.findMessageTypeByName s = none

theorem fresh_defaultPool : Fresh defaultPool := ⟨rfl, rfl, by decide, by decide⟩

namespace DescriptorPool

theorem findFileByName_append_of_none {pool : DescriptorPool} {name : String}
    (h : pool.findFileByName name = none) (l : List FileDescriptorProto) :
    findFileByName ⟨pool.files ++ l⟩ name = findFileByName ⟨l⟩ name := by
  rw [findFileByName_append, show (⟨pool.files⟩ : DescriptorPool) = pool from rfl, h,
    Option.none_or]

theorem findMessageTypeByName_append_of_none {pool : DescriptorPool} {name : String}
    (h : pool.findMessageTypeByName name = none) (l : List FileDescriptorProto) :
    findMessageTypeByName ⟨pool.files ++ l⟩ name = findMessageTypeByName ⟨l⟩ name := by
  rw [findMessageTypeByName_append, show (⟨pool.files⟩ : DescriptorPool) = pool from rfl, h,
    Option.none_or]

end DescriptorPool

section Fresh

variable {pool : DescriptorPool} (h : Fresh pool)
include h

theorem findFileByName_fresh {l : List FileDescriptorProto} {f : FileDescriptorProto}
    (hf : f ∈ handBuiltFiles) :
    findFileByName ⟨pool.files ++ l⟩ f.name = findFileByName ⟨l⟩ f.name :=
  findFileByName_append_of_none (h.files f hf) l

theorem findMessageTypeByName_fresh {l : List FileDescriptorProto} {f : FileDescriptorProto}
    (hf : f ∈ handBuiltFiles) {s : String} (hs : s ∈ symbols f) :
    findMessageTypeByName ⟨pool.files ++ l⟩ s = findMessageTypeByName ⟨l⟩ s :=
  findMessageTypeByName_append_of_none (h.names f hf s hs) l

/-- On a fresh pool, registration appends the three hand-built files, in order. -/
theorem registerProtoDefinitions_fresh :
    registerProtoDefinitions pool = .ok ⟨pool.files ++ handBuiltFiles⟩ := by
  have hacc : accountFile ∈ handBuiltFiles := by decide
  have huser : userFile ∈ handBuiltFiles := by decide
  have hhandler : handlerFile ∈ handBuiltFiles := by decide
  have h1 : registerBlock pool "xray.proxy.vless.Account" accountFile =
      .ok ⟨pool.files ++ [accountFile]⟩ :=
    registerBlock_append (h.names _ hacc _ (by decide))
      (buildError_accountFile_eq_none_iff.mpr ⟨h.files _ hacc, h.names _ hacc _ (by decide)⟩)
  have h2 : registerBlock ⟨pool.files ++ [accountFile]⟩ "xray.common.protocol.User" userFile =
      .ok ⟨pool.files ++ [accountFile] ++ [userFile]⟩ := by
    have hu : findMessageTypeByName ⟨pool.files ++ [accountFile]⟩ "xray.common.protocol.User" =
        none := by
      rw [findMessageTypeByName_fresh h huser (by decide)]
      rfl
    refine registerBlock_append hu (buildError_userFile_eq_none_iff.mpr ⟨?_, ?_, hu, ?_⟩)
    · exact (findFileByName_fresh h huser).trans rfl
    · rw [findFileByName_append_accountFile pool (by decide)]
      exact h.anyFile
    · rw [findMessageTypeByName_append_accountFile pool (by decide), h.any]
      rfl
  have h3 : registerBlock ⟨pool.files ++ [accountFile] ++ [userFile]⟩
      "xray.app.proxyman.command.AddUserRequest" handlerFile =
      .ok ⟨pool.files ++ [accountFile] ++ [userFile] ++ [handlerFile]⟩ := by
    refine registerBlock_append ?_ (buildError_handlerFile_eq_none_iff.mpr ⟨?_, ?_, ?_, ?_⟩) <;>
      simp only [List.append_assoc, List.singleton_append]
    · rw [findMessageTypeByName_fresh h hhandler (by decide)]
      rfl
    · exact (findFileByName_fresh h hhandler).trans rfl
    · rw [show "xray_common_protocol.proto" = userFile.name from rfl, findFileByName_fresh h huser]
      rfl
    · intro s hs
      rw [findMessageTypeByName_fresh h hhandler hs]
      rw [symbols_handlerFile] at hs
      revert s
      decide
    · rw [findMessageTypeByName_fresh h huser (by decide)]
      rfl
  simp only [registerProtoDefinitions, bind, Except.bind, h1, h2, h3]
  simp [handBuiltFiles]

/-- After registration on a fresh pool, every name the three files define resolves, and to the
descriptor the registered default pool gives it. -/
theorem findMessageTypeByName_registered_fresh {f : FileDescriptorProto} (hf : f ∈ handBuiltFiles)
    {s : String} (hs : s ∈ symbols f) :
    findMessageTypeByName ⟨pool.files ++ handBuiltFiles⟩ s =
        registeredPool.findMessageTypeByName s ∧
      (registeredPool.findMessageTypeByName s).isSome := by
  rw [findMessageTypeByName_fresh h hf hs]
  revert f s
  decide

theorem findMessageTypeByName_registered_fresh_any :
    findMessageTypeByName ⟨pool.files ++ handBuiltFiles⟩ "google.protobuf.Any" =
      registeredPool.findMessageTypeByName "google.protobuf.Any" := by
  rw [findMessageTypeByName_append, show (⟨pool.files⟩ : DescriptorPool) = pool from rfl, h.any]
  rfl

end Fresh

end XrayBackend.Proto
