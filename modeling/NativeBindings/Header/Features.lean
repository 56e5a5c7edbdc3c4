import NativeBindings.Header.BuiltinFunction
import NativeBindings.Header.Target

/-!
# What the front end says it supports

A `#if` line may ask the front end about itself with the feature queries: `__has_attribute`,
`__has_c_attribute`, `__has_builtin`, `__has_feature`, `__has_extension`, `__is_identifier`,
`__has_warning`, the target queries `__is_target_arch` and their kin, and the rest. Each one
takes one operand in parentheses and stands for a number: `0` or `1`, or for a standard
attribute the date of the edition that brought it (a C23 attribute is answered with the month
that gave it its meaning, such as `202003` for `nodiscard`).

An attribute is known under its GNU spelling, also with `__` around it. Most attributes are
known whatever the language, even those only OpenCL or CUDA use; some are known only on the
targets that have them, such as `dllimport` on Windows. Several attributes share the spelling
`interrupt`, and the first of them, that of the 32-bit Arm processors, decides. In a C23
query, an attribute written `gnu::name` is known when GCC spells it that way too, and one
written `clang::name` when the front end gives it a spelling of its own in C.

A feature is on or off by the language and the options (`c_alignof` from C11 on, `blocks`
with `-fblocks`); an extension is a feature or one of the extensions of the list, unless
extensions are errors. A warning group is known by its name after `-W`.

The queries are also builtin macros: `#ifdef __has_attribute` holds, and so does every other
name of `builtinMacroNames`.
-/

namespace NativeBindings.Header

/-- The attributes that GCC also knows: their GNU spelling `__attribute__((name))`, and
`gnu::name` in C23. -/
def gccAttributes : List String :=
  ["alias", "aligned", "always_inline", "artificial", "cdecl", "cleanup", "cold", "common",
   "const", "__const", "constructor", "deprecated", "destructor", "alloc_size", "fallthrough",
   "fastcall", "regcall", "flatten", "format", "format_arg", "gnu_inline", "hot", "ifunc",
   "malloc", "may_alias", "ms_abi", "mode", "naked", "returns_twice", "nocommon", "nodebug",
   "noinline", "no_address_safety_analysis", "no_sanitize_address", "no_sanitize_thread",
   "leaf", "ms_struct", "gcc_struct", "dllexport", "dllimport", "selectany",
   "warn_unused_result", "weak", "weakref", "no_profile_instrument_function",
   "no_randomize_layout", "randomize_layout", "no_instrument_function", "no_split_stack",
   "nonnull", "returns_nonnull", "noreturn", "nothrow", "packed", "pcs", "init_priority",
   "section", "sentinel", "stdcall", "sysv_abi", "thiscall", "target", "target_version",
   "target_clones", "transparent_union", "unused", "used", "retain", "vector_size",
   "visibility", "warn_unused", "zero_call_used_regs", "function_return", "error", "warning",
   "alloc_align", "assume_aligned", "tls_model", "patchable_function_entry", "interrupt",
   "signal", "mips16", "nomips16", "micromips", "nomicromips", "long_call", "far",
   "short_call", "near", "no_caller_saved_registers", "nocf_check", "force_align_arg_pointer",
   "no_stack_protector"]

/-- The attributes that the front end spells `clang::name` in C23 beside their GNU spelling. -/
def clangAttributes : List String :=
  ["address_space", "align_value", "xray_always_instrument", "xray_never_instrument",
   "xray_log_args", "annotate", "annotate_type", "availability", "external_source_symbol",
   "blocks", "cf_returns_retained", "cf_returns_not_retained", "cf_consumed",
   "cf_unknown_transfer", "cf_audited_transfer", "ns_returns_retained",
   "ns_returns_not_retained", "ns_returns_autoreleased", "ns_consumes_self", "ns_consumed",
   "os_returns_retained", "os_returns_not_retained", "os_returns_retained_on_zero",
   "os_returns_retained_on_non_zero", "os_consumed", "os_consumes_this", "cpu_specific",
   "cpu_dispatch", "sycl_kernel", "sycl_special_class", "opencl_private", "opencl_global",
   "opencl_global_device", "opencl_global_host", "opencl_local", "opencl_constant",
   "opencl_generic", "nomerge", "minsize", "flag_enum", "enum_extensibility", "callback",
   "called_once", "ibaction", "iboutlet", "iboutletcollection", "mig_server_routine",
   "neon_polyvector_type", "neon_vector_type", "disable_tail_calls", "standalone_debug",
   "noduplicate", "convergent", "no_sanitize", "no_sanitize_memory",
   "cfi_canonical_jump_table", "no_thread_safety_analysis", "consumable",
   "consumable_auto_cast_state", "consumable_set_state_on_read", "callable_when",
   "param_typestate", "return_typestate", "set_typestate", "test_typestate",
   "type_tag_for_datatype", "argument_with_type_tag", "pointer_with_type_tag",
   "internal_linkage", "noescape", "maybe_undef", "weak_import", "no_builtin", "nouwtable",
   "NSObject", "objc_bridge", "objc_bridge_mutable", "objc_bridge_related", "objc_gc",
   "objc_ownership", "objc_requires_property_definitions", "objc_exception",
   "objc_method_family", "objc_independent_class", "objc_precise_lifetime",
   "objc_returns_inner_pointer", "objc_requires_super", "objc_root_class",
   "objc_nonlazy_class", "objc_subclassing_restricted",
   "objc_protocol_requires_explicit_implementation", "objc_designated_initializer",
   "objc_direct", "objc_direct_members", "objc_non_runtime_protocol", "objc_runtime_name",
   "objc_runtime_visible", "objc_class_stub", "objc_boxable", "objc_externally_retained",
   "objc_arc_weak_reference_unavailable", "optnone", "overloadable", "intel_ocl_bicc",
   "pass_object_size", "pass_dynamic_object_size", "swiftcall", "swiftasynccall",
   "swift_context", "swift_async_context", "swift_error_result", "swift_indirect_result",
   "swift_async", "swift_async_error", "vectorcall", "pascal", "preserve_most",
   "preserve_all", "m68k_rtd", "min_vector_width", "unavailable", "diagnose_as_builtin",
   "type_visibility", "vecreturn", "export_name", "import_module", "import_name",
   "btf_decl_tag", "btf_type_tag", "uninitialized", "loader_uninitialized", "matrix_type",
   "noderef", "musttail", "no_stack_protector", "speculative_load_hardening",
   "no_speculative_load_hardening", "disable_sanitizer_instrumentation", "enforce_tcb",
   "enforce_tcb_leaf", "assume", "enforce_read_only_placement",
   "available_only_in_default_eval_method", "counted_by", "preferred_type", "code_align",
   "aarch64_vector_pcs", "aarch64_sve_pcs", "amdgpu_kernel", "amdgpu_flat_work_group_size",
   "amdgpu_waves_per_eu", "amdgpu_num_sgpr", "amdgpu_num_vgpr", "preserve_access_index",
   "preserve_static_offset", "unsafe_buffer_usage", "nvptx_kernel", "guard",
   "__clang_arm_builtin_alias", "__clang_arm_mve_strict_polymorphism", "builtin_alias",
   "noinline", "likely", "unlikely"]

/-- The attributes of C++ that the front end spells with GNU's syntax but not in C23. -/
def cxxOnlyAttributes : List String :=
  ["require_constant_initialization", "exclude_from_explicit_instantiation", "lifetimebound",
   "trivial_abi", "reinitializes", "always_destroy", "no_destroy", "using_if_exists"]

/-- The attributes that only GNU's syntax spells. -/
def gnuOnlyAttributes : List String :=
  ["bounded", "carries_dependency", "cmse_nonsecure_entry", "cmse_nonsecure_call",
   "constant", "cudart_builtin", "device", "device_builtin", "device_builtin_surface_type",
   "device_builtin_texture_type", "global", "host", "managed", "launch_bounds", "shared",
   "grid_constant", "opencl_unroll_hint", "intel_reqd_sub_group_size", "nosvm", "kernel",
   "enable_if", "ext_vector_type", "arm_sve_vector_bits", "riscv_rvv_vector_bits",
   "guarded_var", "pt_guarded_var", "lockable", "scoped_lockable", "capability",
   "shared_capability", "assert_capability", "assert_shared_capability",
   "acquire_capability", "acquire_shared_capability", "exclusive_lock_function",
   "shared_lock_function", "try_acquire_capability", "try_acquire_shared_capability",
   "release_capability", "release_shared_capability", "release_generic_capability",
   "unlock_function", "requires_capability", "exclusive_locks_required",
   "requires_shared_capability", "shared_locks_required", "guarded_by", "pt_guarded_by",
   "acquired_after", "acquired_before", "assert_exclusive_lock", "assert_shared_lock",
   "exclusive_trylock_function", "shared_trylock_function", "lock_returned",
   "locks_excluded", "ns_error_domain", "ownership_holds", "ownership_returns",
   "ownership_takes", "reqd_work_group_size", "work_group_size_hint", "vec_type_hint",
   "swift_async_name", "swift_attr", "swift_bridge", "swift_bridged_typedef",
   "swift_objc_members", "swift_error", "swift_name", "swift_newtype", "swift_wrapper",
   "swift_private", "diagnose_if", "clang_builtin_alias"]

/-- Whether an attribute that only some targets have is known on the target; an attribute of
every target is. -/
def attributeOnTarget (t : Target) (name : String) : Bool :=
  match name with
  | "interrupt" | "pcs" | "cmse_nonsecure_entry" | "cmse_nonsecure_call"
  | "__clang_arm_mve_strict_polymorphism" => t.isArm32
  | "__clang_arm_builtin_alias" => t.isArm32 || t.isAArch64
  | "signal" => false
  | "mips16" | "nomips16" | "micromips" | "nomicromips" => t.isMipsO32
  | "long_call" | "far" | "short_call" | "near" => t.isMips
  | "no_caller_saved_registers" | "nocf_check" | "force_align_arg_pointer"
  | "function_return" => t.isX86
  | "patchable_function_entry" =>
    t.isX86 || t.isAArch64 && t.arch != .aarch64_32 || t.isRiscV || t.isLoongArch
  | "dllimport" | "dllexport" | "guard" => t.isWindows
  | "export_name" | "import_module" | "import_name" => t.isWasm
  | "preserve_access_index" | "preserve_static_offset" => t.arch == .bpfel || t.arch == .bpfeb
  | "nvptx_kernel" => false
  | "target_version" => t.isAArch64
  | "ifunc" => t.isELF && (t.os == .linux && t.environment != .musl || t.os == .freebsd)
  | _ => true

/-- The attributes that the reader takes in under their GNU spelling `__attribute__((name))`:
those that apply to what C declares, without complaint about the language. -/
def parsedAttributes : List String :=
  ["acquire_capability", "acquire_shared_capability", "acquired_after", "acquired_before",
   "address_space", "alias", "align_value", "aligned", "alloc_align", "alloc_size",
   "always_destroy", "always_inline", "analyzer_noreturn", "annotate", "annotate_type",
   "artificial", "assert_capability", "assert_shared_capability", "assume_aligned",
   "availability", "blocks", "btf_decl_tag", "btf_type_tag", "callback", "called_once",
   "capability", "cdecl", "cf_audited_transfer", "cf_consumed", "cf_returns_not_retained",
   "cf_returns_retained", "cf_unknown_transfer", "cfi_canonical_jump_table", "cleanup",
   "clang_arm_builtin_alias", "clang_builtin_alias", "code_align", "cold", "common", "const",
   "constructor", "consumable", "convergent", "counted_by", "cpu_dispatch", "cpu_specific",
   "deprecated", "destructor", "diagnose_as_builtin", "diagnose_if",
   "disable_sanitizer_instrumentation", "disable_tail_calls", "enable_if", "enforce_tcb",
   "enforce_tcb_leaf", "enum_extensibility", "error", "exclude_from_explicit_instantiation",
   "ext_vector_type", "external_source_symbol", "fallthrough", "fastcall", "flag_enum",
   "flatten", "force_align_arg_pointer", "format", "format_arg", "function_return",
   "gnu_inline", "guarded_by", "guarded_var", "hot", "ifunc", "init_priority",
   "intel_ocl_bicc", "internal_linkage", "interrupt", "leaf", "lifetimebound",
   "loader_uninitialized", "lockable", "malloc", "matrix_type", "may_alias", "maybe_undef",
   "min_vector_width", "minsize", "mode", "ms_abi", "ms_struct", "musttail", "naked",
   "no_builtin", "no_caller_saved_registers", "no_destroy", "no_instrument_function",
   "no_profile_instrument_function", "no_randomize_layout", "no_sanitize",
   "no_sanitize_address", "no_sanitize_memory", "no_sanitize_thread", "no_split_stack",
   "no_stack_protector", "no_thread_safety_analysis", "no_speculative_load_hardening",
   "nocf_check", "nodebug", "noderef", "noduplicate", "noescape", "noinline", "nomerge",
   "nonnull", "noreturn", "nothrow", "nouwtable", "ns_consumed", "ns_consumes_self",
   "ns_returns_autoreleased", "ns_returns_not_retained", "ns_returns_retained", "nsobject",
   "objc_boxable", "objc_bridge", "objc_bridge_mutable", "objc_bridge_related",
   "objc_designated_initializer", "objc_exception", "objc_method_family", "objc_ownership",
   "objc_precise_lifetime", "objc_requires_super", "objc_returns_inner_pointer",
   "objc_root_class", "objc_runtime_name", "objc_subclassing_restricted", "optnone",
   "overloadable", "ownership_holds", "ownership_returns", "ownership_takes", "packed",
   "param_typestate", "pascal", "pass_object_size", "patchable_function_entry", "pcs",
   "preferred_type", "preserve_access_index", "preserve_all", "preserve_most",
   "preserve_static_offset", "pt_guarded_by", "pt_guarded_var", "pure", "randomize_layout",
   "regcall", "reinitializes", "release_capability", "release_shared_capability",
   "require_constant_initialization", "requires_capability", "requires_shared_capability",
   "retain", "return_typestate", "returns_nonnull", "returns_twice", "scoped_lockable",
   "section", "sentinel", "set_typestate", "shared_capability", "speculative_load_hardening",
   "standalone_debug", "stdcall", "strict_gs_check", "swift_async", "swift_async_context",
   "swift_async_error", "swift_attr", "swift_bridge", "swift_context", "swift_error",
   "swift_error_result", "swift_indirect_result", "swift_name", "swift_newtype",
   "swift_private", "swiftasynccall", "swiftcall", "sysv_abi", "target", "target_clones",
   "target_version", "test_typestate", "thiscall", "tls_model", "transparent_union",
   "trivial_abi", "try_acquire_capability", "try_acquire_shared_capability",
   "type_tag_for_datatype", "type_visibility", "unavailable", "uninitialized", "unused",
   "used", "vector_size", "vectorcall", "visibility", "warn_unused", "warn_unused_result",
   "warning", "weak", "weak_import", "weakref", "xray_always_instrument",
   "xray_log_args", "xray_never_instrument", "zero_call_used_regs"]

/-- How many arguments an attribute takes: at least `least`, and at most `most` when there is
a bound. -/
structure Arity where
  least : Nat
  most : Option Nat
deriving DecidableEq, Repr

/-- The number of arguments, in words: `1 argument`, `2 arguments`. -/
def argumentsText (n : Nat) : String :=
  toString n ++ " argument" ++ (if n == 1 then "" else "s")

/-- The error about an attribute written as `written` with `count` arguments, when the count
does not fit: a fixed count is named as such, and otherwise the bound it passes. -/
def Arity.complaint? (r : Arity) (written : String) (count : Nat) : Option String :=
  let subject := "'" ++ written ++ "' attribute "
  match r.most with
  | some most =>
    if r.least == most then
      if count == most then none
      else some (subject ++
        if most == 0 then "takes no arguments"
        else if most == 1 then "takes one argument"
        else "requires exactly " ++ toString most ++ " arguments")
    else if r.least > 0 && count < r.least then
      some (subject ++ "takes at least " ++ argumentsText r.least)
    else if most > 0 && count > most then
      some (subject ++ "takes no more than " ++ argumentsText most)
    else none
  | none =>
    if r.least > 0 && count < r.least then
      some (subject ++ "takes at least " ++ argumentsText r.least)
    else none

/-- The attributes whose count of arguments the front end checks, with the counts they take. -/
def attributeArities : List (String × Arity) :=
  let fixed (n : Nat) : Arity := ⟨n, some n⟩
  let none0 := fixed 0
  [("address_space", fixed 1), ("alias", fixed 1), ("aligned", ⟨0, some 1⟩),
   ("alloc_align", fixed 1), ("alloc_size", ⟨1, some 2⟩), ("always_inline", none0),
   ("annotate", ⟨1, none⟩), ("artificial", none0), ("assume_aligned", ⟨1, some 2⟩),
   ("btf_decl_tag", fixed 1), ("btf_type_tag", fixed 1), ("cdecl", none0), ("cleanup", fixed 1),
   ("cold", none0), ("common", none0), ("const", none0), ("constructor", ⟨0, some 1⟩),
   ("deprecated", ⟨0, some 2⟩), ("destructor", ⟨0, some 1⟩), ("error", fixed 1),
   ("ext_vector_type", fixed 1), ("fastcall", none0), ("flatten", none0), ("format", fixed 3),
   ("format_arg", fixed 1), ("gcc_struct", none0), ("gnu_inline", none0), ("hot", none0),
   ("ifunc", fixed 1), ("leaf", none0), ("malloc", none0), ("may_alias", none0),
   ("minsize", none0), ("mode", fixed 1), ("ms_abi", none0), ("ms_struct", none0),
   ("naked", none0), ("no_instrument_function", none0), ("nocommon", none0),
   ("noinline", none0), ("noreturn", none0), ("nothrow", none0), ("overloadable", none0),
   ("packed", none0), ("pure", none0), ("regparm", fixed 1), ("returns_nonnull", none0),
   ("returns_twice", none0), ("section", fixed 1), ("sentinel", ⟨0, some 2⟩),
   ("stdcall", none0), ("sysv_abi", none0), ("thiscall", none0), ("tls_model", fixed 1),
   ("transparent_union", none0), ("unavailable", ⟨0, some 1⟩), ("unused", none0),
   ("used", none0), ("vector_size", fixed 1), ("vectorcall", none0), ("visibility", fixed 1),
   ("warn_unused_result", ⟨0, some 1⟩), ("warning", fixed 1), ("weak", none0),
   ("weakref", ⟨0, some 1⟩)]

/-- The arguments, counted from zero, that must be plain string literals in the attributes that
take strings. -/
def stringArgumentPlaces (name : String) : List Nat :=
  if name == "deprecated" then [0, 1]
  else if ["alias", "annotate", "btf_decl_tag", "btf_type_tag", "error", "ifunc", "section",
      "tls_model", "unavailable", "visibility", "warning", "weakref"].contains name then [0]
  else []

/-- The visibilities that `visibility` names. -/
def visibilityNames : List String := ["default", "hidden", "internal", "protected"]

/-- The count of arguments that an attribute takes, for those whose count is checked. -/
def attributeArity? (name : String) : Option Arity := attributeArities.lookup name

/-- Whether the reader takes in an attribute of a name on the target: one of
`parsedAttributes`, or one that only the target has, as `dllimport` on Windows. -/
def parsedAttribute (t : Target) (name : String) : Bool :=
  parsedAttributes.contains name ||
    (["dllimport", "dllexport"].contains name && attributeOnTarget t name)

/-- The standard attributes of C23 with the date each query answers. -/
def standardCAttributes : List (String × Nat) :=
  [("deprecated", 201904), ("fallthrough", 201910), ("maybe_unused", 202106),
   ("nodiscard", 202003), ("noreturn", 202202), ("_Noreturn", 202202)]

/-- The standard attributes of C++ with the date each query answers. -/
def standardCxxAttributes : List (String × Nat) :=
  [("carries_dependency", 200809), ("deprecated", 201309), ("fallthrough", 201603),
   ("likely", 201803), ("maybe_unused", 201603), ("no_unique_address", 201803),
   ("nodiscard", 201907), ("noreturn", 200809), ("unlikely", 201803)]

/-- The attributes that `__declspec(name)` knows. -/
def declspecAttributes : List String :=
  ["align", "allocate", "allocator", "code_seg", "cpu_dispatch", "cpu_specific", "deprecated",
   "dllexport", "dllimport", "empty_bases", "guard", "layout_version", "naked", "noalias",
   "noinline", "noreturn", "nothrow", "novtable", "property", "restrict", "safebuffers",
   "selectany", "thread", "uuid", "strict_gs_check", "__host__", "__device__", "__global__",
   "__shared__", "__constant__", "__managed__", "__launch_bounds__", "__cudart_builtin__",
   "__device_builtin__", "__device_builtin_surface_type__",
   "__device_builtin_texture_type__"]

/-- What the answers of the queries depend on: the keywords of the language, the builtin
functions known, the target, the language and the options. -/
structure FeatureContext where
  isKeyword : String → Bool := fun _ => false
  builtins : BuiltinContext := {}
  target : Target := {}
  /-- The year of the C++ standard when the unit is C++. -/
  cxxYear : Option Nat := none
  /-- The edition of C is C11 or a later one. -/
  c11 : Bool := true
  objc : Bool := false
  blocks : Bool := false
  declspec : Bool := false
  microsoft : Bool := false
  /-- The extensions to the standard are errors (`-pedantic-errors`). -/
  extensionsAreErrors : Bool := false
deriving Inhabited

/-- Whether the target has thread-local storage: all but Cygwin and WebAssembly do. -/
def Target.hasThreadLocals (t : Target) : Bool := !t.isCygwin && !t.isWasm

/-- Whether the target supports the calling convention of Swift's asynchronous functions. -/
def Target.hasSwiftAsync (t : Target) : Bool := t.arch == .x86_64 || t.isAArch64 || t.isArm32

/-- The features that `__has_feature` knows, with whether each is on. -/
def features (f : FeatureContext) : List (String × Bool) :=
  let cxx := f.cxxYear.isSome
  let cxx11 := f.cxxYear.any (fun y => y != 98 && y ≥ 11)
  let cxx14 := f.cxxYear.any (fun y => y != 98 && y ≥ 14)
  let c11 := cxx || f.c11
  let always := ["assume_nonnull", "attribute_analyzer_noreturn", "attribute_availability",
    "attribute_availability_with_message", "attribute_availability_app_extension",
    "attribute_availability_with_version_underscores", "attribute_availability_tvos",
    "attribute_availability_watchos", "attribute_availability_driverkit",
    "attribute_availability_with_strict", "attribute_availability_with_replacement",
    "attribute_availability_in_templates", "attribute_availability_swift",
    "attribute_cf_returns_not_retained", "attribute_cf_returns_retained",
    "attribute_cf_returns_on_parameters", "attribute_deprecated_with_message",
    "attribute_deprecated_with_replacement", "attribute_ext_vector_type",
    "attribute_ns_returns_not_retained", "attribute_ns_returns_retained",
    "attribute_ns_consumes_self", "attribute_ns_consumed", "attribute_cf_consumed",
    "attribute_objc_ivar_unused", "attribute_objc_method_family", "attribute_overloadable",
    "attribute_unavailable_with_message", "attribute_unused_on_fields",
    "attribute_diagnose_if_objc", "c_thread_safety_attributes", "enumerator_attributes",
    "nullability", "nullability_on_arrays", "nullability_on_classes",
    "nullability_nullable_result", "pragma_stdc_cx_limited_range", "objc_arc_fields",
    "objc_property_explicit_atomic", "objc_protocol_qualifier_mangling", "ownership_holds",
    "ownership_returns", "ownership_takes", "objc_bool", "arc_cf_code_audited",
    "objc_bridge_id", "objc_bridge_id_on_typedefs"]
  let objc := ["objc_default_synthesize_properties", "objc_fixed_enum", "objc_instancetype",
    "objc_kindof", "objc_array_literals", "objc_dictionary_literals", "objc_boxed_expressions",
    "objc_boxed_nsvalue_expressions", "objc_generics", "objc_generics_variance",
    "objc_class_property", "objc_nonfragile_abi", "objc_subscripting", "objc_weak_class"]
  let c11Features := ["c_alignas", "c_alignof", "c_atomic", "c_generic_selections",
    "c_static_assert", "objc_c_static_assert"]
  let cxx11Features := ["cxx_access_control_sfinae", "cxx_alias_templates", "cxx_alignas",
    "cxx_alignof", "cxx_atomic", "cxx_attributes", "cxx_auto_type", "cxx_constexpr",
    "cxx_constexpr_string_builtins", "cxx_decltype", "cxx_decltype_incomplete_return_types",
    "cxx_default_function_template_args", "cxx_defaulted_functions",
    "cxx_delegating_constructors", "cxx_deleted_functions", "cxx_explicit_conversions",
    "cxx_generalized_initializers", "cxx_implicit_moves", "cxx_inheriting_constructors",
    "cxx_inline_namespaces", "cxx_lambdas", "cxx_local_type_template_args",
    "cxx_nonstatic_member_init", "cxx_noexcept", "cxx_nullptr", "cxx_override_control",
    "cxx_range_for", "cxx_raw_string_literals", "cxx_reference_qualified_functions",
    "cxx_rvalue_references", "cxx_strong_enums", "cxx_static_assert", "cxx_trailing_return",
    "cxx_unicode_literals", "cxx_unrestricted_unions", "cxx_user_literals",
    "cxx_variadic_templates", "objc_cxx_static_assert"]
  let cxx14Features := ["cxx_aggregate_nsdmi", "cxx_binary_literals",
    "cxx_contextual_conversions", "cxx_decltype_auto", "cxx_generic_lambdas",
    "cxx_init_captures", "cxx_relaxed_constexpr", "cxx_return_type_deduction",
    "cxx_variable_templates"]
  let traits := ["has_nothrow_assign", "has_nothrow_copy", "has_nothrow_constructor",
    "has_trivial_assign", "has_trivial_copy", "has_trivial_constructor",
    "has_trivial_destructor", "has_virtual_destructor", "is_abstract", "is_base_of",
    "is_class", "is_constructible", "is_convertible_to", "is_empty", "is_enum", "is_final",
    "is_literal", "is_standard_layout", "is_pod", "is_polymorphic", "is_trivial",
    "is_trivially_assignable", "is_trivially_constructible", "is_trivially_copyable",
    "is_union", "underlying_type", "cxx_exceptions", "cxx_rtti"]
  always.map (·, true) ++ objc.map (·, f.objc) ++ c11Features.map (·, c11) ++
  cxx11Features.map (·, cxx11) ++ cxx14Features.map (·, cxx14) ++ traits.map (·, cxx) ++
  [("blocks", f.blocks), ("swiftasynccc", f.target.hasSwiftAsync),
   ("c_thread_local", c11 && f.target.hasThreadLocals),
   ("cxx_thread_local", cxx11 && f.target.hasThreadLocals),
   ("tls", f.target.hasThreadLocals), ("is_sealed", cxx && f.microsoft)]

/-- The extensions that `__has_extension` knows besides the features, with whether each is
on. -/
def extensions (f : FeatureContext) : List (String × Bool) :=
  let cxx := f.cxxYear.isSome
  let cxx11 := f.cxxYear.any (fun y => y != 98 && y ≥ 11)
  ["c_alignas", "c_alignof", "c_atomic", "c_generic_selections",
   "c_generic_selection_with_controlling_type", "c_static_assert", "c_attributes",
   "cxx_fixed_enum", "cxx_binary_literals", "overloadable_unmarked",
   "pragma_clang_attribute_namespaces", "pragma_clang_attribute_external_declaration",
   "statement_attributes_with_gnu_syntax", "gnu_asm", "gnu_asm_goto_with_outputs",
   "gnu_asm_goto_with_outputs_full", "matrix_types_scalar_division",
   "objc_c_static_assert"].map (·, true) ++
  ["cxx_atomic", "cxx_default_function_template_args", "cxx_defaulted_functions",
   "cxx_deleted_functions", "cxx_explicit_conversions", "cxx_inline_namespaces",
   "cxx_local_type_template_args", "cxx_nonstatic_member_init", "cxx_override_control",
   "cxx_range_for", "cxx_reference_qualified_functions", "cxx_rvalue_references",
   "cxx_variadic_templates", "cxx_variable_templates", "datasizeof"].map (·, cxx) ++
  [("cxx_init_captures", cxx11), ("cxx_attributes_on_using_declarations", cxx11),
   ("c_thread_local", f.target.hasThreadLocals)]

/-- The warning groups that `__has_warning` knows, without their `-W`. -/
def warningGroups : List String :=
  ["#pragma-messages", "#warnings", "CFString-literal", "CL4", "IndependentClass-attribute",
   "NSObject-attribute", "abi", "absolute-value", "abstract-final-class", "abstract-vbase-init",
   "address", "address-of-packed-member", "address-of-temporary", "aggregate-return",
   "aix-compat", "align-mismatch", "all", "alloca", "alloca-with-align-alignof",
   "always-inline-coroutine", "ambiguous-delete", "ambiguous-ellipsis", "ambiguous-macro",
   "ambiguous-member-template", "ambiguous-reversed-operator", "analyzer-incompatible-plugin",
   "android-unversioned-fallback", "anon-enum-enum-conversion", "anonymous-pack-parens", "arc",
   "arc-bridge-casts-disallowed-in-nonarc", "arc-maybe-repeated-use-of-weak",
   "arc-non-pod-memaccess", "arc-performSelector-leaks", "arc-repeated-use-of-weak",
   "arc-retain-cycles", "arc-unsafe-retained-assign", "argument-outside-range",
   "argument-undefined-behaviour", "array-bounds", "array-bounds-pointer-arithmetic",
   "array-parameter", "asm", "asm-operand-widths", "assign-enum", "assume", "at-protocol",
   "atimport-in-framework-header", "atomic-access", "atomic-alignment",
   "atomic-implicit-seq-cst", "atomic-memory-ordering", "atomic-properties",
   "atomic-property-with-user-defined-accessor", "attribute-packed-for-bitfield",
   "attribute-warning", "attributes", "auto-decl-extensions", "auto-disable-vptr-sanitizer",
   "auto-import", "auto-storage-class", "auto-var-id", "availability",
   "avr-rtlib-linking-quirks", "backend-plugin", "backslash-newline-escape", "bad-function-cast",
   "binary-literal", "bind-to-temporary-copy", "binding-in-condition", "bit-int-extension",
   "bitfield-constant-conversion", "bitfield-enum-conversion", "bitfield-width",
   "bitwise-conditional-parentheses", "bitwise-instead-of-logical", "bitwise-op-parentheses",
   "block-capture-autoreleasing", "bool-conversion", "bool-conversions", "bool-operation",
   "braced-scalar-init", "branch-protection", "bridge-cast", "builtin-assume-aligned-alignment",
   "builtin-macro-redefined", "builtin-memcpy-chk-size", "builtin-requires-header", "c++-compat",
   "c++0x-compat", "c++0x-extensions", "c++0x-narrowing", "c++11-compat",
   "c++11-compat-deprecated-writable-strings", "c++11-compat-pedantic",
   "c++11-compat-reserved-user-defined-literal", "c++11-extensions", "c++11-extra-semi",
   "c++11-inline-namespace", "c++11-long-long", "c++11-narrowing",
   "c++11-narrowing-const-reference", "c++14-attribute-extensions", "c++14-binary-literal",
   "c++14-compat", "c++14-compat-pedantic", "c++14-extensions", "c++17-attribute-extensions",
   "c++17-compat", "c++17-compat-mangling", "c++17-compat-pedantic", "c++17-extensions",
   "c++1y-extensions", "c++1z-compat", "c++1z-compat-mangling", "c++1z-extensions",
   "c++20-attribute-extensions", "c++20-compat", "c++20-compat-pedantic", "c++20-designator",
   "c++20-extensions", "c++23-extensions", "c++26-extensions", "c++2a-compat",
   "c++2a-compat-pedantic", "c++2a-extensions", "c++2b-extensions", "c++2c-extensions",
   "c++98-c++11-c++14-c++17-compat", "c++98-c++11-c++14-c++17-compat-pedantic",
   "c++98-c++11-c++14-compat", "c++98-c++11-c++14-compat-pedantic", "c++98-c++11-compat",
   "c++98-c++11-compat-binary-literal", "c++98-c++11-compat-pedantic", "c++98-compat",
   "c++98-compat-bind-to-temporary-copy", "c++98-compat-extra-semi",
   "c++98-compat-local-type-template-args", "c++98-compat-pedantic",
   "c++98-compat-unnamed-type-template-args", "c11-extensions", "c23-compat", "c23-extensions",
   "c2x-compat", "c2x-extensions", "c99-compat", "c99-designator", "c99-extensions",
   "call-to-pure-virtual-from-ctor-dtor", "called-once-parameter", "cast-align",
   "cast-calling-convention", "cast-function-type", "cast-function-type-strict",
   "cast-of-sel-type", "cast-qual", "cast-qual-unrelated", "char-align", "char-subscripts",
   "clang-cl-pch", "class-conversion", "class-varargs", "cmse-union-leak", "comma", "comment",
   "comments", "compare-distinct-pointer-types", "completion-handler", "complex-component-init",
   "compound-token-split", "compound-token-split-by-macro", "compound-token-split-by-space",
   "conditional-type-mismatch", "conditional-uninitialized", "config-macros",
   "constant-conversion", "constant-evaluated", "constant-logical-operand",
   "constexpr-not-const", "consumed", "conversion", "conversion-null", "coroutine",
   "coroutine-missing-unhandled-exception", "covered-switch-default", "cpp",
   "cstring-format-directive", "ctad-maybe-unsupported", "ctor-dtor-privacy", "ctu",
   "cuda-compat", "custom-atomic-properties", "cxx-attribute-extension", "dangling",
   "dangling-else", "dangling-field", "dangling-gsl", "dangling-initializer-list", "date-time",
   "dealloc-in-category", "debug-compression-unavailable", "declaration-after-statement",
   "defaulted-function-deleted", "delegating-ctor-cycles", "delete-abstract-non-virtual-dtor",
   "delete-incomplete", "delete-non-abstract-non-virtual-dtor", "delete-non-virtual-dtor",
   "delimited-escape-sequence-extension", "deprecate-lax-vec-conv-all", "deprecated",
   "deprecated-altivec-src-compat", "deprecated-anon-enum-enum-conversion",
   "deprecated-array-compare", "deprecated-attributes", "deprecated-builtins",
   "deprecated-comma-subscript", "deprecated-copy", "deprecated-copy-with-dtor",
   "deprecated-copy-with-user-provided-copy", "deprecated-copy-with-user-provided-dtor",
   "deprecated-coroutine", "deprecated-declarations", "deprecated-dynamic-exception-spec",
   "deprecated-enum-compare", "deprecated-enum-compare-conditional",
   "deprecated-enum-enum-conversion", "deprecated-enum-float-conversion",
   "deprecated-experimental-coroutine", "deprecated-implementations",
   "deprecated-increment-bool", "deprecated-literal-operator", "deprecated-non-prototype",
   "deprecated-objc-isa-usage", "deprecated-objc-pointer-introspection",
   "deprecated-objc-pointer-introspection-performSelector", "deprecated-pragma",
   "deprecated-redundant-constexpr-static-def", "deprecated-register",
   "deprecated-static-analyzer-flag", "deprecated-this-capture", "deprecated-type",
   "deprecated-volatile", "deprecated-writable-strings", "direct-ivar-access",
   "disabled-macro-expansion", "disabled-optimization", "discard-qual",
   "distributed-object-modifiers", "div-by-zero", "division-by-zero",
   "dll-attribute-on-redeclaration", "dllexport-explicit-instantiation-decl",
   "dllimport-static-field-def", "documentation", "documentation-deprecated-sync",
   "documentation-html", "documentation-pedantic", "documentation-unknown-command",
   "dollar-in-identifier-extension", "double-promotion", "dtor-name", "dtor-typedef",
   "duplicate-decl-specifier", "duplicate-enum", "duplicate-method-arg",
   "duplicate-method-match", "duplicate-protocol", "dynamic-class-memaccess",
   "dynamic-exception-spec", "eager-load-cxx-named-modules", "effc++", "elaborated-enum-base",
   "elaborated-enum-class", "embedded-directive", "empty-body", "empty-decomposition",
   "empty-init-stmt", "empty-translation-unit", "encode-type", "endif-labels", "enum-compare",
   "enum-compare-conditional", "enum-compare-switch", "enum-conversion", "enum-enum-conversion",
   "enum-float-conversion", "enum-too-large", "everything", "exceptions", "excess-initializers",
   "exit-time-destructors", "expansion-to-defined", "experimental-header-units",
   "explicit-initialize-call", "explicit-ownership-type", "export-unnamed", "extern-c-compat",
   "extern-initializer", "extra", "extra-qualification", "extra-semi", "extra-semi-stmt",
   "extra-tokens", "final-dtor-non-final-class", "final-macro", "fixed-enum-extension",
   "fixed-point-overflow", "flag-enum", "flexible-array-extensions", "float-conversion",
   "float-equal", "float-overflow-conversion", "float-zero-conversion", "for-loop-analysis",
   "format", "format-extra-args", "format-insufficient-args", "format-invalid-specifier",
   "format-non-iso", "format-nonliteral", "format-pedantic", "format-security",
   "format-type-confusion", "format-y2k", "format-zero-length", "format=2", "fortify-source",
   "four-char-constants", "frame-address", "frame-larger-than",
   "framework-include-private-from-public", "free-nonheap-object", "friend-enum",
   "function-def-in-objc-container", "function-multiversion", "fuse-ld-path",
   "future-attribute-extensions", "future-compat", "gcc-compat", "generic-type-extension",
   "global-constructors", "global-isel", "gnu", "gnu-alignof-expression", "gnu-anonymous-struct",
   "gnu-array-member-paren-init", "gnu-auto-type", "gnu-binary-literal", "gnu-case-range",
   "gnu-complex-integer", "gnu-compound-literal-initializer", "gnu-conditional-omitted-operand",
   "gnu-designator", "gnu-empty-initializer", "gnu-empty-struct",
   "gnu-flexible-array-initializer", "gnu-flexible-array-union-member", "gnu-folding-constant",
   "gnu-imaginary-constant", "gnu-include-next", "gnu-inline-cpp-without-extern",
   "gnu-label-as-value", "gnu-line-marker", "gnu-null-pointer-arithmetic",
   "gnu-offsetof-extensions", "gnu-pointer-arith", "gnu-redeclared-enum",
   "gnu-statement-expression", "gnu-statement-expression-from-macro-expansion",
   "gnu-static-float-init", "gnu-string-literal-operator-template", "gnu-union-cast",
   "gnu-variable-sized-type-not-at-end", "gnu-zero-line-directive",
   "gnu-zero-variadic-macro-arguments", "gpu-maybe-wrong-side", "header-guard", "header-hygiene",
   "hip-omp-target-directives", "hip-only", "hlsl-extensions", "idiomatic-parentheses",
   "ignored-attributes", "ignored-availability-without-sdk-settings",
   "ignored-optimization-argument", "ignored-pragma-intrinsic", "ignored-pragma-optimize",
   "ignored-pragmas", "ignored-qualifiers", "ignored-reference-qualifiers", "implicit",
   "implicit-atomic-properties", "implicit-const-int-float-conversion",
   "implicit-conversion-floating-point-to-bool", "implicit-exception-spec-mismatch",
   "implicit-fallthrough", "implicit-fallthrough-per-function",
   "implicit-fixed-point-conversion", "implicit-float-conversion",
   "implicit-function-declaration", "implicit-int", "implicit-int-conversion",
   "implicit-int-float-conversion", "implicit-retain-self", "implicitly-unsigned-literal",
   "import", "import-preprocessor-directive-pedantic", "inaccessible-base",
   "include-angled-in-module-purview", "include-next-absolute-path",
   "include-next-outside-header", "incompatible-exception-spec",
   "incompatible-function-pointer-types", "incompatible-function-pointer-types-strict",
   "incompatible-library-redeclaration", "incompatible-ms-pragma-section",
   "incompatible-ms-struct", "incompatible-pointer-types",
   "incompatible-pointer-types-discards-qualifiers", "incompatible-property-type",
   "incompatible-sysroot", "incomplete-framework-module-declaration",
   "incomplete-implementation", "incomplete-module", "incomplete-setjmp-declaration",
   "incomplete-umbrella", "inconsistent-dllimport", "inconsistent-missing-destructor-override",
   "inconsistent-missing-override", "increment-bool", "independent-class-attribute",
   "infinite-recursion", "init-self", "initializer-overrides", "injected-class-name", "inline",
   "inline-asm", "inline-namespace-reopened-noninline", "inline-new-delete",
   "instantiation-after-specialization", "int-conversion", "int-conversions",
   "int-in-bool-context", "int-to-pointer-cast", "int-to-void-pointer-cast", "integer-overflow",
   "interrupt-service-routine", "invalid-command-line-argument", "invalid-constexpr",
   "invalid-iboutlet", "invalid-initializer-from-system-header", "invalid-ios-deployment-target",
   "invalid-no-builtin-names", "invalid-noreturn", "invalid-offsetof",
   "invalid-or-nonexistent-directory", "invalid-partial-specialization", "invalid-pch",
   "invalid-pp-token", "invalid-source-encoding", "invalid-static-assert-message",
   "invalid-token-paste", "invalid-unevaluated-string", "invalid-utf8", "jump-seh-finally",
   "keyword-compat", "keyword-macro", "knr-promoted-parameter", "language-extension-token",
   "large-by-value-copy", "linker-warnings", "literal-conversion", "literal-range",
   "local-type-template-args", "logical-not-parentheses", "logical-op-parentheses", "long-long",
   "loop-analysis", "macro-redefined", "main", "main-return-type", "malformed-warning-check",
   "many-braces-around-scalar-init", "mathematical-notation-identifier-extension", "max-tokens",
   "max-unsigned-zero", "memset-transposed-args", "memsize-comparison", "method-signatures",
   "microsoft", "microsoft-abstract", "microsoft-anon-tag", "microsoft-cast",
   "microsoft-charize", "microsoft-comment-paste", "microsoft-const-init", "microsoft-cpp-macro",
   "microsoft-default-arg-redefinition", "microsoft-drectve-section", "microsoft-end-of-file",
   "microsoft-enum-forward-reference", "microsoft-enum-value", "microsoft-exception-spec",
   "microsoft-exists", "microsoft-explicit-constructor-call", "microsoft-extra-qualification",
   "microsoft-fixed-enum", "microsoft-flexible-array", "microsoft-goto",
   "microsoft-inaccessible-base", "microsoft-include", "microsoft-init-from-predefined",
   "microsoft-mutable-reference", "microsoft-pure-definition", "microsoft-redeclare-static",
   "microsoft-sealed", "microsoft-static-assert", "microsoft-template",
   "microsoft-template-shadow", "microsoft-union-member-reference",
   "microsoft-unqualified-friend", "microsoft-using-decl", "microsoft-void-pseudo-dtor",
   "misexpect", "misleading-indentation", "mismatched-new-delete", "mismatched-parameter-types",
   "mismatched-return-types", "mismatched-tags", "missing-braces", "missing-constinit",
   "missing-declarations", "missing-exception-spec", "missing-field-initializers",
   "missing-format-attribute", "missing-include-dirs", "missing-method-return-type",
   "missing-multilib", "missing-noescape", "missing-noreturn", "missing-prototype-for-cc",
   "missing-prototypes", "missing-selector-name", "missing-sysroot",
   "missing-template-arg-list-after-template-kw", "missing-variable-declarations",
   "misspelled-assumption", "module-conflict", "module-file-config-mismatch",
   "module-file-extension", "module-import-in-extern-c", "modules-ambiguous-internal-linkage",
   "modules-import-nested-redundant", "most", "move", "msvc-include", "msvc-not-found",
   "multi-gpu", "multichar", "multiple-move-vbase", "narrowing", "nested-anon-types",
   "nested-externs", "new-returns-null", "newline-eof", "noderef", "noexcept-type",
   "non-c-typedef-for-linkage", "non-gcc", "non-literal-null-conversion",
   "non-modular-include-in-framework-module", "non-modular-include-in-module", "non-pod-varargs",
   "non-power-of-two-alignment", "non-virtual-dtor", "nonnull", "nonportable-cfstrings",
   "nonportable-include-path", "nonportable-system-include-path",
   "nonportable-vector-initialization", "nontrivial-memaccess", "nsconsumed-mismatch",
   "nsreturns-mismatch", "null-arithmetic", "null-character", "null-conversion",
   "null-dereference", "null-pointer-arithmetic", "null-pointer-subtraction", "nullability",
   "nullability-completeness", "nullability-completeness-on-arrays", "nullability-declspec",
   "nullability-extension", "nullability-inferred-on-nested-type",
   "nullable-to-nonnull-conversion", "objc-autosynthesis-property-ivar-name-match",
   "objc-bool-constant-conversion", "objc-boxing", "objc-circular-container", "objc-cocoa-api",
   "objc-designated-initializers", "objc-dictionary-duplicate-keys", "objc-flexible-array",
   "objc-forward-class-redefinition", "objc-interface-ivars", "objc-literal-compare",
   "objc-literal-conversion", "objc-macro-redefinition", "objc-messaging-id",
   "objc-method-access", "objc-missing-property-synthesis", "objc-missing-super-calls",
   "objc-multiple-method-names", "objc-noncopy-retain-block-property",
   "objc-nonunified-exceptions", "objc-property-assign-on-object-type",
   "objc-property-implementation", "objc-property-implicit-mismatch",
   "objc-property-matches-cocoa-ownership-rule", "objc-property-no-attribute",
   "objc-property-synthesis", "objc-protocol-method-implementation",
   "objc-protocol-property-synthesis", "objc-protocol-qualifiers",
   "objc-readonly-with-setter-property", "objc-redundant-api-use", "objc-redundant-literal-use",
   "objc-root-class", "objc-signed-char-bool", "objc-signed-char-bool-implicit-float-conversion",
   "objc-signed-char-bool-implicit-int-conversion", "objc-string-compare",
   "objc-string-concatenation", "objc-unsafe-perform-selector", "odr", "old-style-cast",
   "old-style-definition", "opencl-unsupported-rgba", "openmp", "openmp-51-extensions",
   "openmp-clauses", "openmp-loop-form", "openmp-mapping", "openmp-target",
   "openmp-target-exception", "option-ignored", "ordered-compare-function-pointers",
   "out-of-line-declaration", "out-of-scope-function", "over-aligned", "overflow",
   "overlength-strings", "overloaded-shift-op-parentheses", "overloaded-virtual",
   "override-init", "override-module", "overriding-method-mismatch", "overriding-option",
   "overriding-t-option", "packed", "packed-non-pod", "padded", "padded-bitfield", "parentheses",
   "parentheses-equality", "partial-availability", "pass", "pass-analysis", "pass-failed",
   "pass-missed", "pch-date-time", "pedantic", "pedantic-core-features", "pessimizing-move",
   "pointer-arith", "pointer-bool-conversion", "pointer-compare", "pointer-integer-compare",
   "pointer-sign", "pointer-to-enum-cast", "pointer-to-int-cast", "pointer-type-mismatch",
   "poison-system-directories", "potentially-direct-selector",
   "potentially-evaluated-expression", "pragma-clang-attribute", "pragma-once-outside-header",
   "pragma-pack", "pragma-pack-suspicious-include", "pragma-system-header-outside-header",
   "pragmas", "pre-c++14-compat", "pre-c++14-compat-pedantic", "pre-c++17-compat",
   "pre-c++17-compat-pedantic", "pre-c++20-compat", "pre-c++20-compat-pedantic",
   "pre-c++23-compat", "pre-c++23-compat-pedantic", "pre-c++26-compat",
   "pre-c++26-compat-pedantic", "pre-c++2c-compat", "pre-c++2c-compat-pedantic",
   "pre-c23-compat", "pre-c23-compat-pedantic", "pre-c2x-compat", "pre-c2x-compat-pedantic",
   "pre-openmp-51-compat", "predefined-identifier-outside-function", "private-extern",
   "private-header", "private-module", "profile-instr-missing", "profile-instr-out-of-date",
   "profile-instr-unprofiled", "property-access-dot-syntax", "property-attribute-mismatch",
   "protocol", "protocol-property-synthesis-ambiguity", "psabi", "qualified-void-return-type",
   "quoted-include-in-framework-header", "range-loop-analysis", "range-loop-bind-reference",
   "range-loop-construct", "read-modules-implicitly", "read-only-types",
   "readonly-iboutlet-property", "receiver-expr", "receiver-forward-class",
   "redeclared-class-member", "redundant-consteval-if", "redundant-decls", "redundant-move",
   "redundant-parens", "register", "reinterpret-base-class", "remark-backend-plugin", "reorder",
   "reorder-ctor", "reorder-init-list", "requires-super-attribute", "reserved-id-macro",
   "reserved-identifier", "reserved-macro-identifier", "reserved-module-identifier",
   "reserved-user-defined-literal", "restrict-expansion", "retained-language-linkage",
   "return-local-addr", "return-stack-address", "return-std-move", "return-type",
   "return-type-c-linkage", "rewrite-not-bool", "round-trip-cc1-args", "rtti",
   "sanitize-address", "sarif-format-unstable", "search-path-usage", "section", "selector",
   "selector-type-mismatch", "self-assign", "self-assign-field", "self-assign-overloaded",
   "self-move", "semicolon-before-method-body", "sentinel", "sequence-point",
   "serialized-diagnostics", "shadow", "shadow-all", "shadow-field",
   "shadow-field-in-constructor", "shadow-field-in-constructor-modified", "shadow-ivar",
   "shadow-uncaptured-local", "shift-count-negative", "shift-count-overflow",
   "shift-negative-value", "shift-op-parentheses", "shift-overflow", "shift-sign-overflow",
   "shorten-64-to-32", "sign-compare", "sign-conversion", "sign-promo", "signed-enum-bitfield",
   "signed-unsigned-wchar", "single-bit-bitfield-constant-conversion", "sizeof-array-argument",
   "sizeof-array-decay", "sizeof-array-div", "sizeof-pointer-div", "sizeof-pointer-memaccess",
   "slash-u-filename", "slh-asm-goto", "sometimes-uninitialized", "source-mgr",
   "source-uses-openmp", "spir-compat", "spirv-compat", "stack-exhausted", "stack-protector",
   "static-float-init", "static-in-inline", "static-inline-explicit-instantiation",
   "static-local-in-inline", "static-self-init", "stdlibcxx-not-found", "strict-aliasing",
   "strict-aliasing=0", "strict-aliasing=1", "strict-aliasing=2", "strict-overflow",
   "strict-overflow=0", "strict-overflow=1", "strict-overflow=2", "strict-overflow=3",
   "strict-overflow=4", "strict-overflow=5", "strict-potentially-direct-selector",
   "strict-primary-template-shadow", "strict-prototypes", "strict-selector-match",
   "string-compare", "string-concatenation", "string-conversion", "string-plus-char",
   "string-plus-int", "strlcpy-strlcat-size", "strncat-size", "suggest-destructor-override",
   "suggest-override", "super-class-method-mismatch", "suspicious-bzero", "suspicious-memaccess",
   "swift-name-attribute", "switch", "switch-bool", "switch-default", "switch-enum",
   "sync-alignment", "sync-fetch-and-nand-semantics-changed", "synth",
   "target-clones-mixed-specifiers", "tautological-bitwise-compare", "tautological-compare",
   "tautological-constant-compare", "tautological-constant-in-range-compare",
   "tautological-constant-out-of-range-compare", "tautological-negation-compare",
   "tautological-objc-bool-compare", "tautological-overlap-compare",
   "tautological-pointer-compare", "tautological-type-limit-compare",
   "tautological-undefined-compare", "tautological-unsigned-char-zero-compare",
   "tautological-unsigned-enum-zero-compare", "tautological-unsigned-zero-compare",
   "tautological-value-range-compare", "tcb-enforcement", "tentative-definition-incomplete-type",
   "thread-safety", "thread-safety-analysis", "thread-safety-attributes", "thread-safety-beta",
   "thread-safety-negative", "thread-safety-precise", "thread-safety-reference",
   "thread-safety-verbose", "trigraphs", "type-limits", "type-safety", "typedef-redefinition",
   "typename-missing", "unable-to-open-stats-file", "unaligned-access",
   "unaligned-qualifier-implicit-cast", "unavailable-declarations", "undeclared-selector",
   "undef", "undef-prefix", "undefined-bool-conversion", "undefined-func-template",
   "undefined-inline", "undefined-internal", "undefined-internal-type",
   "undefined-reinterpret-cast", "undefined-var-template", "underaligned-exception-object",
   "unevaluated-expression", "unguarded-availability", "unguarded-availability-new", "unicode",
   "unicode-homoglyph", "unicode-whitespace", "unicode-zero-width", "uninitialized",
   "uninitialized-const-reference", "unknown-argument", "unknown-assumption",
   "unknown-attributes", "unknown-cuda-version", "unknown-directives", "unknown-escape-sequence",
   "unknown-pragmas", "unknown-sanitizers", "unknown-warning-option",
   "unnamed-type-template-args", "unneeded-internal-declaration", "unneeded-member-function",
   "unqualified-std-cast-call", "unreachable-code", "unreachable-code-aggressive",
   "unreachable-code-break", "unreachable-code-fallthrough", "unreachable-code-generic-assoc",
   "unreachable-code-loop-increment", "unreachable-code-return", "unsafe-buffer-usage",
   "unsequenced", "unsupported-abi", "unsupported-abs", "unsupported-availability-guard",
   "unsupported-cb", "unsupported-dll-base-class-template", "unsupported-friend",
   "unsupported-gpopt", "unsupported-nan", "unsupported-target-opt", "unsupported-visibility",
   "unusable-partial-specialization", "unused", "unused-argument", "unused-but-set-parameter",
   "unused-but-set-variable", "unused-command-line-argument", "unused-comparison",
   "unused-const-variable", "unused-exception-parameter", "unused-function",
   "unused-getter-return-value", "unused-label", "unused-lambda-capture", "unused-local-typedef",
   "unused-local-typedefs", "unused-macros", "unused-member-function", "unused-parameter",
   "unused-private-field", "unused-property-ivar", "unused-result", "unused-template",
   "unused-value", "unused-variable", "unused-volatile-lvalue", "used-but-marked-unused",
   "user-defined-literals", "user-defined-warnings", "varargs", "variadic-macros",
   "vec-elem-size", "vector-conversion", "vector-conversions", "vexing-parse", "visibility",
   "vla", "vla-extension", "void-pointer-to-enum-cast", "void-pointer-to-int-cast",
   "void-ptr-dereference", "volatile-register-var", "wasm-exception-spec",
   "weak-template-vtables", "weak-vtables", "writable-strings", "write-strings",
   "xor-used-as-pow", "zero-as-null-pointer-constant", "zero-length-array"]

/-- The queries a `#if` line may ask. -/
inductive FeatureQuery where
  | attribute
  | cAttribute
  | cppAttribute
  | declspecAttribute
  | builtin
  | constexprBuiltin
  | feature
  | extension
  | identifier
  | warning
  | targetArch
  | targetVendor
  | targetOS
  | targetEnvironment
  | targetVariant
deriving DecidableEq, Inhabited, Repr

/-- The query a name asks, if it names one in C. -/
def FeatureQuery.ofName? : String → Option FeatureQuery
  | "__has_attribute" => some .attribute
  | "__has_c_attribute" => some .cAttribute
  | "__has_declspec_attribute" => some .declspecAttribute
  | "__has_builtin" => some .builtin
  | "__has_constexpr_builtin" => some .constexprBuiltin
  | "__has_feature" => some .feature
  | "__has_extension" => some .extension
  | "__is_identifier" => some .identifier
  | "__has_warning" => some .warning
  | "__is_target_arch" => some .targetArch
  | "__is_target_vendor" => some .targetVendor
  | "__is_target_os" => some .targetOS
  | "__is_target_environment" => some .targetEnvironment
  | "__is_target_variant_os" | "__is_target_variant_environment" => some .targetVariant
  | _ => none

/-- Whether the query is one of the target queries. -/
def FeatureQuery.isTarget (q : FeatureQuery) : Bool :=
  [FeatureQuery.targetArch, .targetVendor, .targetOS, .targetEnvironment,
   .targetVariant].contains q

/-- A name written with or without surrounding `__`. -/
def plainName (s : String) : String :=
  if s.length > 4 && s.startsWith "__" && s.endsWith "__" then (s.drop 2).dropEnd 2 |>.toString
  else s

/-- Whether the GNU spelling of an attribute is known on the target. -/
def gnuAttribute (t : Target) (name : String) : Bool :=
  (gccAttributes.contains name || clangAttributes.contains name ||
    cxxOnlyAttributes.contains name || gnuOnlyAttributes.contains name) &&
  name != "builtin_alias" && name != "likely" && name != "unlikely" &&
  name != "annotate_type" && attributeOnTarget t name

/-- Whether a vendor's attribute written `scope::name` in C23 or C++ is known on the target:
GCC's with the scope `gnu`, the front end's own with the scope `clang`. -/
def scopedAttribute (t : Target) (scope name : String) : Bool :=
  let scope := plainName scope
  let known :=
    if scope == "gnu" then gccAttributes.contains name
    else if scope == "clang" || scope == "_Clang" then clangAttributes.contains name
    else false
  known && attributeOnTarget t name

/-- Whether a processor name, as `__is_target_arch` takes it, names the target's processor: the
same family, and the same version of the architecture if the name asks for one. A Thumb target
is also an Arm one. -/
def Target.isArch (t : Target) (name : String) : Bool :=
  let name := name.toLower
  match Arch.ofName? name with
  | none => false
  | some a =>
    let sub := subArchOf name
    let versionMatches := sub.isEmpty || sub == t.subArch
    versionMatches &&
      (a == t.arch || (t.arch == .thumb && a == .arm) || (t.arch == .thumbeb && a == .armeb))

/-- Whether a system name, as `__is_target_os` takes it, names the target's system; `darwin`
stands for every system of Apple's. -/
def Target.isOS (t : Target) (name : String) : Bool :=
  match OS.ofName name.toLower with
  | .darwin => t.isDarwin
  | o => o == t.os

/-- Whether an environment name, as `__is_target_environment` takes it, names the target's
environment; an unknown name matches only when it is `unknown` itself. -/
def Target.isEnvironment (t : Target) (name : String) : Bool :=
  let name := name.toLower
  let e := Environment.ofName name
  if e == .unknown && name != "unknown" then false else e == t.environment

/-- The answer of a query for its operand: a name, perhaps with a scope, or for
`__has_warning` the text of a string literal. -/
def FeatureQuery.answer (f : FeatureContext) : FeatureQuery → Option String → String → Nat
  | .attribute, _, n => if gnuAttribute f.target (plainName n) then 1 else 0
  | .cAttribute, none, n => ((standardCAttributes.find? (·.1 == plainName n)).map (·.2)).getD 0
  | .cAttribute, some s, n => if scopedAttribute f.target s (plainName n) then 1 else 0
  | .cppAttribute, none, n => ((standardCxxAttributes.find? (·.1 == plainName n)).map (·.2)).getD 0
  | .cppAttribute, some s, n =>
    if scopedAttribute f.target s (plainName n) ||
        (plainName s == "clang" && cxxOnlyAttributes.contains (plainName n)) then 1 else 0
  | .declspecAttribute, _, n =>
    if f.declspec && declspecAttributes.contains n && attributeOnTarget f.target n then 1 else 0
  | .builtin, _, n =>
    if (builtinFunction? f.builtins n).isSome then 1
    else if f.isKeyword n && (n.startsWith "__builtin_" || n.startsWith "__is_" || n.startsWith "__has_")
    then 1
    else if (FeatureQuery.ofName? n).any FeatureQuery.isTarget then 1 else 0
  | .constexprBuiltin, _, n =>
    match builtinFunction? f.builtins n with
    | some b => if b.properties.contains 'E' then 1 else 0
    | none => 0
  | .feature, _, n => if (features f).contains (n, true) then 1 else 0
  | .extension, _, n =>
    if (features f).contains (n, true) then 1
    else if f.extensionsAreErrors then 0
    else if (extensions f).contains (n, true) then 1 else 0
  | .identifier, _, n => if f.isKeyword n then 0 else 1
  | .warning, _, w =>
    if w.startsWith "-W" && warningGroups.contains (w.drop 2).toString then 1 else 0
  | .targetArch, _, n => if f.target.isArch n then 1 else 0
  | .targetVendor, _, n => if f.target.vendor.toLower == n.toLower then 1 else 0
  | .targetOS, _, n => if f.target.isOS n then 1 else 0
  | .targetEnvironment, _, n => if f.target.isEnvironment n then 1 else 0
  | .targetVariant, _, _ => 0

/-- The builtin macros, which `#ifdef` finds defined. -/
def builtinMacroNames : List String :=
  ["__LINE__", "__FILE__", "__DATE__", "__TIME__", "__COUNTER__", "_Pragma", "__FILE_NAME__",
   "__INCLUDE_LEVEL__", "__BASE_FILE__", "__TIMESTAMP__", "__FLT_EVAL_METHOD__",
   "__has_feature", "__has_extension", "__has_builtin", "__has_constexpr_builtin",
   "__has_attribute", "__has_c_attribute", "__has_declspec_attribute", "__has_include",
   "__has_include_next", "__has_warning", "__is_identifier", "__is_target_arch",
   "__is_target_vendor", "__is_target_os", "__is_target_environment",
   "__is_target_variant_os", "__is_target_variant_environment", "__building_module"]

end NativeBindings.Header
