/-!
# The options of the compiler driver

`driverOptionTable` lists the options that the compiler driver and the compiler front end behind
it know, in the order of the driver's option table: by name with the leading dashes left out,
case not counting, and a name before every name that it begins. An option written with one dash
or with two has an entry for each spelling, the single dash first.

The entries are words with one space between them, and the text is cut into pieces of a hundred
characters or so, read in order as one. A word is a letter for what the driver does with the
option, a `+` when the front end also knows it, and the spelling:

* `f`: the option stands alone;
* `j`: its value follows it in the same argument;
* `s`: its value is the next argument;
* `b`: its value is either;
* `2` or `3`: it takes that many arguments after it;
* `n`: the driver does not know it, only the front end.
-/

namespace NativeBindings.Header

/-- The options of the driver and the front end, in pieces (see the module header). -/
def driverOptionTable : List String := [
  "f-### j-A- n+-add-plugin s-alias_list f--all-warnings f-all_load s-allowable_client",
  "j--amdgpu-arch-tool= n+-analyze-function= n+-analyze-function n+-analyzer-checker-help-alpha",
  "n+-analyzer-checker-help-developer n+-analyzer-checker-help",
  "n+-analyzer-checker-option-help-alpha n+-analyzer-checker-option-help-developer",
  "n+-analyzer-checker-option-help n+-analyzer-checker= n+-analyzer-checker",
  "n+-analyzer-config-compatibility-mode= n+-analyzer-config-compatibility-mode",
  "n+-analyzer-config-help n+-analyzer-config n+-analyzer-constraints= n+-analyzer-constraints",
  "n+-analyzer-disable-all-checks n+-analyzer-disable-checker= n+-analyzer-disable-checker",
  "n+-analyzer-disable-retry-exhausted n+-analyzer-display-progress n+-analyzer-dump-egraph=",
  "n+-analyzer-dump-egraph n+-analyzer-inline-max-stack-depth= n+-analyzer-inline-max-stack-depth",
  "n+-analyzer-inlining-mode= n+-analyzer-inlining-mode n+-analyzer-list-enabled-checkers",
  "n+-analyzer-max-loop f--analyzer-no-default-checks n+-analyzer-note-analysis-entry-points",
  "n+-analyzer-opt-analyze-headers n+-analyzer-output= b--analyzer-output n+-analyzer-output",
  "n+-analyzer-purge= n+-analyzer-purge n+-analyzer-stats n+-analyzer-viz-egraph-graphviz",
  "n+-analyzer-werror f--analyze n+-analyze f-ansi f--ansi f-arch_errors_fatal s-arch_only s-arch",
  "n+-as-secure-log-file f--assemble j--assert= s--assert n+-ast-dump-all= n+-ast-dump-all",
  "n+-ast-dump-decl-types n+-ast-dump-filter= n+-ast-dump-filter n+-ast-dump-lookups n+-ast-dump=",
  "n+-ast-dump n+-ast-list n+-ast-merge n+-ast-print n+-ast-view j--autocomplete= n+-aux-target-cpu",
  "n+-aux-target-feature n+-aux-triple b-A j--bootclasspath= s--bootclasspath",
  "n+-building-pch-with-obj b-B b-b n+-c-isystem f-canonical-prefixes n+-cc1as n+-cc1",
  "b-ccc-gcc-name b-ccc-install-dir j-ccc-print-bindings j-ccc-print-phases j-ccc- f+-CC",
  "n+-cfg-add-implicit-dtors n+-cfguard-no-checks n+-cfguard n+-chain-include f-cl-denorms-are-zero",
  "j+-cl-ext= f+-cl-fast-relaxed-math f+-cl-finite-math-only",
  "f+-cl-fp32-correctly-rounded-divide-sqrt f+-cl-kernel-arg-info f+-cl-mad-enable",
  "f+-cl-no-signed-zeros f-cl-no-stdinc f+-cl-opt-disable f+-cl-single-precision-constant",
  "j+-cl-std= f+-cl-strict-aliasing f+-cl-uniform-work-group-size f+-cl-unsafe-math-optimizations",
  "f+-clangir-disable-passes f+-clangir-disable-verifier j--CLASSPATH= j--classpath= s--CLASSPATH",
  "s--classpath n+-clear-ast-before-backend b-client_name n+-code-completion-at=",
  "n+-code-completion-at n+-code-completion-brief-comments n+-code-completion-macros",
  "n+-code-completion-patterns n+-code-completion-with-fixits f-combine f--combine",
  "f--comments-in-macros f--comments b-compatibility_version n+-compiler-options-dump f--compile",
  "n+-complex-range= n+-compress-debug-sections= n+-compress-debug-sections j--config-system-dir=",
  "j--config-user-dir= j--config= s--config f--constant-cfstrings n+-coverage-data-file=",
  "n+-coverage-notes-file= n+-coverage-version= f-coverage f--coverage f-cpp-precomp n+--crel",
  "f--cuda-compile-host-device f--cuda-device-only j--cuda-feature= j--cuda-gpu-arch=",
  "f--cuda-host-only j--cuda-include-ptx= f--cuda-noopt-device-debug f--cuda-path-ignore-env",
  "j--cuda-path= j+-cuid= b-current_version b+-cxx-isystem f+-C f-c",
  "n+-darwin-target-variant-sdk-version= b+-darwin-target-variant-triple b-darwin-target-variant",
  "j+-dD n+-debug-forward-template-params n+-debug-info-kind= n+-debug-info-macro-expansion-loc",
  "n+-debug-info-macro j--debug= n+-debugger-tuning= f--debug n+-default-function-attr",
  "j--define-macro= s--define-macro f--dependencies b+-dependency-dot b+-dependency-file",
  "n+--dependent-lib= n+-detailed-preprocessing-record n+-dE n+-diagnostic-log-file n+-disable-free",
  "n+-disable-lifetime-markers n+-disable-llvm-optzns n+-disable-llvm-passes",
  "n+-disable-llvm-verifier n+-disable-O0-optnone n+-disable-objc-default-synthesize-properties",
  "n+-disable-pragma-debug-crash n+-disable-red-zone n+-discard-value-names j+-dI j+-dM",
  "j--driver-mode= b-dsym-dir n+-dump-coverage-mapping n+-dump-deserialized-decls",
  "n+-dump-minimization-hints= n+-dump-raw-tokens n+-dump-tokens b+-dumpdir j-dumpmachine",
  "j-dumpversion n+-dwarf-debug-flags n+-dwarf-explicit-import n+-dwarf-ext-refs n+-dwarf-version=",
  "j--dxv-path= j--dyld-prefix= s--dyld-prefix b+-D j-d f-EB n+-ehcontguard f-EL j+--embed-dir=",
  "f-emit-ast f+-emit-cir n+-emit-codegen-only f+--emit-extension-symbol-graphs n+-emit-header-unit",
  "n+-emit-html f+-emit-interface-stubs n+-emit-llvm-bc n+-emit-llvm-only n+-emit-llvm-uselists",
  "f+-emit-llvm f+-emit-merged-ifs n+-emit-module-interface n+-emit-module n+-emit-obj n+-emit-pch",
  "n+-emit-reduced-module-interface n+--emit-sgf-symbol-labels-for-testing f--emit-static-lib",
  "f+-emit-symbol-graph n+-enable-noundef-analysis n+-enable-tlsdesc j--encoding= s--encoding",
  "f--end-no-unused-arguments f--entry n+-Eonly n+-error-on-deserialized-decl=",
  "n+-error-on-deserialized-decl n+-exception-model= n+-exception-model s-exported_symbols_list",
  "j--extdirs= s--extdirs f--extra-warnings j+--extract-api-ignores= f+-extract-api f+-E s-e",
  "f+-faapcs-bitfield-load f+-faapcs-bitfield-width f+-faarch64-jump-table-hardening",
  "f-faccess-control n+-faddress-space-map-mangling= f+-faddrsig f-faggressive-function-elimination",
  "f-falign-commons j-falign-functions= f-falign-functions j-falign-jumps= f-falign-jumps",
  "j-falign-labels= f-falign-labels j+-falign-loops= f-falign-loops n+-faligned-alloc-unavailable",
  "f+-faligned-allocation j-faligned-new= f-faligned-new f-fall-intrinsics j+-falloc-token-max=",
  "n+-falloc-token-mode= f+-fallow-editor-placeholders n+-fallow-pch-with-compiler-errors",
  "n+-fallow-pch-with-different-modules-cache-path n+-fallow-pcm-with-compiler-errors",
  "j+-fallow-runtime-check-skip-hot-cutoff= f-fallow-unsupported j+-faltivec-src-compat= f-faltivec",
  "f-fandroid-pad-segment f+-fansi-escape-codes f+-fapinotes-modules j+-fapinotes-swift-version=",
  "f+-fapinotes f+-fapple-kext f-fapple-link-rtlib f+-fapple-pragma-pack f+-fapplication-extension",
  "n+-fapply-global-visibility-to-externs f+-fapprox-func f+-fasm-blocks f-fasm f-fassociative-math",
  "f+-fassume-nothrow-exception-dtor f-fassume-sane-operator-new f-fassume-unique-vtables",
  "f-fassumptions f-fastcp f-fastf f-fast f+-fasync-exceptions f-fasynchronous-unwind-tables",
  "f+-fatomic-fine-grained-memory f+-fatomic-ignore-denormal-mode f+-fatomic-remote-memory",
  "f-fauto-import f-fauto-profile-accurate j-fauto-profile= f-fautolink f-fautomatic f-fbacktrace",
  "f+-fbasic-block-address-map j+-fbasic-block-sections= n+-fbfloat16-excess-precision=",
  "j+-fbinutils-version= j-fblas-matmul-limit= n+-fblocks-runtime-optional f+-fblocks",
  "j-fbootclasspath= f+-fborland-extensions f-fbounds-check j-fbracket-depth= n+-fbracket-depth",
  "f-fbranch-count-reg j-fbuild-session-file= j+-fbuild-session-timestamp=",
  "n+-fbuiltin-headers-in-system-modules f-fbuiltin-module-map f-fbuiltin j+-fc++-abi=",
  "j+-fc++-static-destructors= f-fc++-static-destructors f-fcall-saved-x10 f-fcall-saved-x11",
  "f-fcall-saved-x12 f-fcall-saved-x13 f-fcall-saved-x14 f-fcall-saved-x15 f-fcall-saved-x18",
  "f-fcall-saved-x8 f-fcall-saved-x9 f-fcaller-saves j+-fcaret-diagnostics-max-lines=",
  "f-fcaret-diagnostics j+-fcf-protection= f+-fcf-protection j+-fcf-runtime-abi= f+-fchar8_t",
  "f-fcheck-array-temporaries f+-fcheck-new j-fcheck= j+-fclang-abi-compat= f+-fclangir",
  "j-fclasspath= j-fcodegen-data-generate= f-fcodegen-data-generate j-fcodegen-data-use=",
  "f-fcodegen-data-use f+-fcolor-diagnostics j+-fcomment-block-commands= f+-fcommon",
  "n+-fcompatibility-qualified-id-block-type-checking j-fcompile-resource=",
  "f+-fcomplete-member-pointers j+-fcomplex-arithmetic= n+-fconst-strings f-fconstant-cfstrings",
  "j-fconstant-string-class= n+-fconstant-string-class j+-fconstexpr-backtrace-limit=",
  "j+-fconstexpr-depth= j+-fconstexpr-steps= f+-fconvergent-functions f+-fcoro-aligned-allocation",
  "f+-fcoroutines j+-fcoverage-compilation-dir= f+-fcoverage-mapping f+-fcoverage-mcdc",
  "j+-fcoverage-prefix-map= j-fcrash-diagnostics-dir= j-fcrash-diagnostics= f-fcrash-diagnostics",
  "f-fcray-pointer f-fcreate-profile j-fcs-profile-generate= f-fcs-profile-generate",
  "n+-fctor-dtor-return-this n+-fcuda-allow-variadic-functions f-fcuda-approx-transcendentals",
  "f-fcuda-flush-denormals-to-zero n+-fcuda-include-gpubinary n+-fcuda-is-device f-fcuda-rdc",
  "f+-fcuda-short-ptr f+-fcx-fortran-rules f+-fcx-limited-range f+-fcxx-exceptions f-fcxx-modules",
  "f+-fdata-sections j+-fdebug-compilation-dir= s+-fdebug-compilation-dir j-fdebug-default-version=",
  "f+-fdebug-info-for-profiling f-fdebug-macro f-fdebug-pass-arguments n+-fdebug-pass-manager",
  "f-fdebug-pass-structure j+-fdebug-prefix-map= f+-fdebug-ranges-base-address",
  "f-fdebug-types-section n+-fdebugger-cast-result-to-id n+-fdebugger-objc-literal",
  "n+-fdebugger-support n+-fdeclare-opencl-builtins f+-fdeclspec n+-fdefault-calling-conv=",
  "f-fdefault-inline f-fdefer-pop f+-fdefer-ts f+-fdefine-target-os-macros",
  "f+-fdelayed-template-parsing f-fdelete-null-pointer-checks n+-fdenormal-fp-math-f32=",
  "j+-fdenormal-fp-math= j+-fdepfile-entry= n+-fdeprecated-macro f+-fdevirtualize-speculatively",
  "f-fdevirtualize f+-fdiagnostics-absolute-paths j-fdiagnostics-color= f-fdiagnostics-color",
  "f-fdiagnostics-fixit-info j-fdiagnostics-format= n+-fdiagnostics-format",
  "j+-fdiagnostics-hotness-threshold= j+-fdiagnostics-misexpect-tolerance=",
  "f+-fdiagnostics-parseable-fixits f+-fdiagnostics-print-source-range-info",
  "j-fdiagnostics-show-category= n+-fdiagnostics-show-category f+-fdiagnostics-show-hotness",
  "f-fdiagnostics-show-line-numbers j-fdiagnostics-show-location=",
  "f+-fdiagnostics-show-note-include-stack f-fdiagnostics-show-option",
  "f+-fdiagnostics-show-template-tree f+-fdigraphs f+-fdirect-access-external-data",
  "f+-fdirectives-only f+-fdisable-block-signature-string n+-fdisable-module-hash",
  "f-fdiscard-value-names f-fdollar-ok f+-fdollars-in-identifiers",
  "f-fdouble-square-bracket-attributes f-fdriver-only f-fdump-fortran-optimized",
  "f-fdump-fortran-original f-fdump-parse-tree n+-fdump-record-layouts-canonical",
  "n+-fdump-record-layouts-complete n+-fdump-record-layouts-simple n+-fdump-record-layouts",
  "n+-fdump-vtable-layouts f-fdwarf-directory-asm f-fdwarf-exceptions f+-fdwarf2-cfi-asm",
  "j+-fdx-rootsignature-define= j+-fdx-rootsignature-version= f-felide-constructors",
  "f-feliminate-unused-debug-symbols f-feliminate-unused-debug-types f-fembed-bitcode-marker",
  "j+-fembed-bitcode= f-fembed-bitcode j+-fembed-offload-object= f+-femit-all-decls",
  "f+-femit-compact-unwind-non-canonical j+-femit-dwarf-unwind= f+-femulated-tls f+-fenable-matrix",
  "n+-fencode-extended-block-signature j-fencoding= j-ferror-limit= n+-ferror-limit",
  "f-fescaping-block-tail-calls f+-fexceptions j-fexcess-precision= j-fexec-charset=",
  "f-fexpensive-optimizations n+-fexperimental-assignment-tracking= n+-fexperimental-bounds-safety",
  "f+-fexperimental-call-graph-section f-fexperimental-isel f+-fexperimental-late-parse-attributes",
  "f+-fexperimental-library n+-fexperimental-lifetime-safety-inference",
  "n+-fexperimental-lifetime-safety f+-fexperimental-loop-fusion n+-fexperimental-max-bitint-width=",
  "f+-fexperimental-modules-reduced-bmi f+-fexperimental-new-constant-interpreter",
  "n+-fexperimental-omit-vtable-rtti j-fexperimental-openacc-macro-override=",
  "s+-fexperimental-openacc-macro-override f+-fexperimental-relative-c++-abi-vtables",
  "j+-fexperimental-sanitize-metadata-ignorelist= n+-fexperimental-sanitize-metadata=atomics",
  "n+-fexperimental-sanitize-metadata=covered n+-fexperimental-sanitize-metadata=uar",
  "j+-fexperimental-sanitize-metadata= f+-fexperimental-strict-floating-point j-fextdirs=",
  "j+-fextend-arguments= j+-fextend-variable-liveness= f+-fextend-variable-liveness",
  "f-fextended-identifiers f-fexternal-blas n+-fexternc-nounwind f-ff2c n+-ffake-address-space-map",
  "f+-ffast-math f+-ffat-lto-objects j-ffile-compilation-dir= j-ffile-prefix-map=",
  "f+-ffile-reproducible f+-ffine-grained-bitfield-accesses f+-ffinite-loops f+-ffinite-math-only",
  "f-ffixed-a0 f-ffixed-a1 f-ffixed-a2 f-ffixed-a3 f-ffixed-a4 f-ffixed-a5 f-ffixed-a6 f-ffixed-d0",
  "f-ffixed-d1 f-ffixed-d2 f-ffixed-d3 f-ffixed-d4 f-ffixed-d5 f-ffixed-d6 f-ffixed-d7 f-ffixed-g1",
  "f-ffixed-g2 f-ffixed-g3 f-ffixed-g4 f-ffixed-g5 f-ffixed-g6 f-ffixed-g7 f-ffixed-i0 f-ffixed-i1",
  "f-ffixed-i2 f-ffixed-i3 f-ffixed-i4 f-ffixed-i5 f-ffixed-l0 f-ffixed-l1 f-ffixed-l2 f-ffixed-l3",
  "f-ffixed-l4 f-ffixed-l5 f-ffixed-l6 f-ffixed-l7 f-ffixed-o0 f-ffixed-o1 f-ffixed-o2 f-ffixed-o3",
  "f-ffixed-o4 f-ffixed-o5 f+-ffixed-point f-ffixed-r19 f-ffixed-r9 f-ffixed-x10 f-ffixed-x11",
  "f-ffixed-x12 f-ffixed-x13 f-ffixed-x14 f-ffixed-x15 f-ffixed-x16 f-ffixed-x17 f-ffixed-x18",
  "f-ffixed-x19 f-ffixed-x1 f-ffixed-x20 f-ffixed-x21 f-ffixed-x22 f-ffixed-x23 f-ffixed-x24",
  "f-ffixed-x25 f-ffixed-x26 f-ffixed-x27 f-ffixed-x28 f-ffixed-x29 f-ffixed-x2 f-ffixed-x30",
  "f-ffixed-x31 f-ffixed-x3 f-ffixed-x4 f-ffixed-x5 f-ffixed-x6 f-ffixed-x7 f-ffixed-x8 f-ffixed-x9",
  "f-ffloat-store n+-ffloat16-excess-precision= f-ffor-scope n+-fforbid-guard-variables",
  "j-fforce-addr f+-fforce-check-cxx20-modules-input-files f+-fforce-dwarf-frame",
  "f+-fforce-emit-vtables f+-fforce-enable-int128 j+-ffp-contract= j+-ffp-eval-method=",
  "j+-ffp-exception-behavior= j-ffp-model= j-ffpe-trap= j-ffree-line-length- f+-ffreestanding",
  "f-ffriend-injection f-ffrontend-optimize j+-ffuchsia-api-level= f-ffunction-attribute-list",
  "f+-ffunction-sections f-fgcse-after-reload f-fgcse-las f-fgcse-sm f-fgcse f-fglobal-isel",
  "f-fgnu-inline-asm f+-fgnu-keywords f-fgnu-runtime f+-fgnu89-inline j+-fgnuc-version= f-fgnu",
  "f+-fgpu-allow-device-init f+-fgpu-approx-transcendentals j+-fgpu-default-stream=",
  "f+-fgpu-defer-diag f+-fgpu-exclude-wrong-side-overloads f-fgpu-flush-denormals-to-zero",
  "j-fgpu-inline-threshold= f+-fgpu-rdc f-fgpu-sanitize n+-fhalf-no-semantic-interposition",
  "f-fheinous-gnu-extensions f-fhip-dump-offload-linker-script f-fhip-emit-relocatable",
  "f-fhip-fp32-correctly-rounded-divide-sqrt f+-fhip-kernel-arg-name f+-fhip-new-launch-api",
  "f+-fhlsl-strict-availability f-fhonor-infinites f-fhonor-infinities f-fhonor-nans f-fhosted",
  "f+-fident f+-fignore-exceptions s-filelist f-fimplement-inlines f+-fimplicit-module-maps",
  "n+-fimplicit-modules-use-lock f-fimplicit-modules f-fimplicit-templates",
  "n+-finclude-default-header f+-fincremental-extensions f-findirect-virtual-calls",
  "j-finit-character= f-finit-global-zero j-finit-integer= f-finit-local-zero j-finit-logical=",
  "j-finit-real= n+-finitial-counter-value= f-finline-functions-called-once f+-finline-functions",
  "f+-finline-hint-functions j-finline-limit= f-finline-limit j+-finline-max-stacksize=",
  "f-finline-small-functions f-finline j-finput-charset= f+-finstrument-function-entry-bare",
  "f+-finstrument-functions-after-inlining f+-finstrument-functions f-finteger-4-integer-8",
  "f+-fintegrated-as f-fintegrated-cc1 f-fintegrated-objemitter f-fipa-cp f-fivopts",
  "n+-fix-only-warnings n+-fix-what-you-can n+-fixit-recompile n+-fixit-to-temporary n+-fixit=",
  "n+-fixit f+-fjmc f-fjump-tables f-fkeep-inline-functions f+-fkeep-persistent-storage-variables",
  "f+-fkeep-static-consts f+-fkeep-system-includes f-flat_namespace j+-flax-vector-conversions=",
  "f-flax-vector-conversions f-flimit-debug-info j-flimited-precision= f+-floop-interchange",
  "j+-flto-jobs= j-flto-partitions= n+-flto-unit n+-flto-visibility-public-std j-flto=auto",
  "j-flto=jobserver j+-flto= f+-flto j+-fmacro-backtrace-limit= j+-fmacro-prefix-map=",
  "f+-fmath-errno j+-fmatrix-memory-layout= j-fmax-array-constructor= j-fmax-errors=",
  "f-fmax-identifier-length j-fmax-stack-var-size= j-fmax-subrecord-length= j+-fmax-tokens=",
  "j+-fmax-type-align= n+-fmcdc-max-conditions= n+-fmcdc-max-test-vectors= j+-fmemory-profile-use=",
  "j+-fmemory-profile= f+-fmemory-profile f+-fmerge-all-constants f-fmerge-constants",
  "n+-fmerge-functions j+-fmessage-length= f+-fminimize-whitespace n+-fmodule-feature",
  "f-fmodule-file-deps n+-fmodule-file-home-is-cwd j+-fmodule-file= n+-fmodule-format=",
  "j-fmodule-header= f-fmodule-header s+-fmodule-implementation-of n+-fmodule-map-file-home-is-cwd",
  "j+-fmodule-map-file= f-fmodule-maps j+-fmodule-name= j+-fmodule-output= f+-fmodule-output",
  "f-fmodule-private f+-fmodulemap-allow-subdirectory-search j+-fmodules-cache-path=",
  "n+-fmodules-codegen n+-fmodules-debuginfo f+-fmodules-decluse",
  "f+-fmodules-disable-diagnostic-validation j+-fmodules-embed-all-files n+-fmodules-embed-file=",
  "f-fmodules-force-validate-user-headers n+-fmodules-hash-content j+-fmodules-ignore-macro=",
  "n+-fmodules-local-submodule-visibility j+-fmodules-prune-after= j+-fmodules-prune-interval=",
  "f+-fmodules-reduced-bmi f+-fmodules-search-all n+-fmodules-single-module-parse-mode",
  "n+-fmodules-skip-diagnostic-options n+-fmodules-skip-header-search-paths",
  "n+-fmodules-strict-context-hash f+-fmodules-strict-decluse s+-fmodules-user-build-path",
  "f-fmodules-validate-input-files-content f+-fmodules-validate-once-per-build-session",
  "f+-fmodules-validate-system-headers f+-fmodules f-fmodulo-sched-allow-regmoves f-fmodulo-sched",
  "j+-fms-compatibility-version= f+-fms-compatibility f+-fms-define-stdc f+-fms-extensions",
  "f+-fms-hotpatch n+-fms-kernel n+-fms-layout-compatibility= j+-fms-memptr-rep=",
  "j-fms-omit-default-lib j-fms-runtime-lib= j+-fms-secure-hotpatch-functions-file=",
  "j+-fms-secure-hotpatch-functions-list= f-fms-tls-guards f+-fms-volatile j-fmsc-version=",
  "f-fmudflapth f-fmudflap j-fmultilib-flag= j--fmultilib-flag= f+-fnamed-loops",
  "n+-fnative-half-arguments-and-returns n+-fnative-half-type n+-fnative-int16-type",
  "f-fnested-functions j+-fnew-alignment= s-fnew-alignment f+-fnew-infallible f-fnext-runtime",
  "f+-fno-aapcs-bitfield-width f-fno-aarch64-jump-table-hardening f+-fno-access-control",
  "f-fno-addrsig f-fno-aggressive-function-elimination f-fno-align-commons f-fno-align-functions",
  "f-fno-align-jumps f-fno-align-labels f-fno-align-loops f+-fno-aligned-allocation",
  "f-fno-aligned-new f-fno-all-intrinsics f-fno-allow-editor-placeholders f-fno-altivec",
  "f-fno-android-pad-segment f+-fno-apinotes-modules f+-fno-apinotes f-fno-apple-pragma-pack",
  "f-fno-application-extension f+-fno-approx-func f-fno-asm-blocks f-fno-asm f-fno-associative-math",
  "f-fno-assume-nothrow-exception-dtor f+-fno-assume-sane-operator-new f+-fno-assume-unique-vtables",
  "f+-fno-assumptions f-fno-async-exceptions f-fno-asynchronous-unwind-tables",
  "f-fno-atomic-fine-grained-memory f-fno-atomic-ignore-denormal-mode f-fno-atomic-remote-memory",
  "f+-fno-auto-import f-fno-auto-profile-accurate f-fno-auto-profile f+-fno-autolink",
  "f-fno-backtrace f-fno-basic-block-address-map n+-fno-bitfield-type-align f-fno-blocks",
  "f-fno-borland-extensions f-fno-bounds-check f-fno-branch-count-reg j+-fno-builtin-",
  "f+-fno-builtin f-fno-c++-static-destructors f-fno-caller-saves f+-fno-caret-diagnostics",
  "f+-fno-char8_t f-fno-check-array-temporaries f+-fno-check-new f+-fno-clangir",
  "f-fno-color-diagnostics f+-fno-common f-fno-complete-member-pointers n+-fno-const-strings",
  "f+-fno-constant-cfstrings f+-fno-convergent-functions f-fno-coro-aligned-allocation",
  "f-fno-coroutines f-fno-coverage-mapping f-fno-coverage-mcdc f-fno-crash-diagnostics",
  "f-fno-cray-pointer f-fno-cuda-approx-transcendentals f-fno-cuda-flush-denormals-to-zero",
  "n+-fno-cuda-host-device-constexpr f-fno-cuda-rdc f-fno-cuda-short-ptr f+-fno-cx-fortran-rules",
  "f+-fno-cx-limited-range f-fno-cxx-exceptions f+-fno-cxx-modules f-fno-data-sections",
  "f-fno-debug-info-for-profiling f-fno-debug-macro n+-fno-debug-pass-manager",
  "f-fno-debug-ranges-base-address f-fno-debug-types-section f+-fno-declspec f-fno-default-inline",
  "f-fno-defer-pop f-fno-defer-ts f+-fno-define-target-os-macros f-fno-delayed-template-parsing",
  "f+-fno-delete-null-pointer-checks n+-fno-deprecated-macro f+-fno-devirtualize-speculatively",
  "f-fno-devirtualize f-fno-diagnostics-color f+-fno-diagnostics-fixit-info",
  "f-fno-diagnostics-show-hotness f+-fno-diagnostics-show-line-numbers",
  "f+-fno-diagnostics-show-note-include-stack f+-fno-diagnostics-show-option",
  "n+-fno-diagnostics-use-presumed-location f+-fno-digraphs f+-fno-direct-access-external-data",
  "f-fno-directives-only f+-fno-disable-block-signature-string f-fno-discard-value-names",
  "n+-fno-dllexport-inlines f-fno-dollar-ok f+-fno-dollars-in-identifiers",
  "f-fno-double-square-bracket-attributes f-fno-dump-fortran-optimized f-fno-dump-fortran-original",
  "f-fno-dump-parse-tree f+-fno-dwarf-directory-asm f-fno-dwarf2-cfi-asm f+-fno-elide-constructors",
  "f+-fno-elide-type f-fno-eliminate-unused-debug-symbols f+-fno-eliminate-unused-debug-types",
  "f-fno-emit-compact-unwind-non-canonical f-fno-emulated-tls f+-fno-escaping-block-tail-calls",
  "f-fno-exceptions f-fno-expensive-optimizations n+-fno-experimental-bounds-safety",
  "f-fno-experimental-call-graph-section f-fno-experimental-isel",
  "f+-fno-experimental-late-parse-attributes f-fno-experimental-library",
  "n+-fno-experimental-lifetime-safety-inference n+-fno-experimental-lifetime-safety",
  "f-fno-experimental-loop-fusion n+-fno-experimental-omit-vtable-rtti",
  "f+-fno-experimental-relative-c++-abi-vtables j+-fno-experimental-sanitize-metadata=",
  "f-fno-extended-identifiers f-fno-external-blas f-fno-f2c f+-fno-fast-math f+-fno-fat-lto-objects",
  "f+-fno-file-reproducible f+-fno-fine-grained-bitfield-accesses f+-fno-finite-loops",
  "f-fno-finite-math-only f-fno-fixed-point f-fno-float-store f-fno-for-scope",
  "f-fno-force-dwarf-frame f-fno-force-emit-vtables f-fno-force-enable-int128",
  "f-fno-friend-injection f-fno-frontend-optimize f-fno-function-attribute-list",
  "f-fno-function-sections f-fno-gcse-after-reload f-fno-gcse-las f-fno-gcse-sm f-fno-gcse",
  "f-fno-global-isel f+-fno-gnu-inline-asm f+-fno-gnu-keywords f-fno-gnu89-inline f-fno-gnu",
  "f-fno-gpu-allow-device-init f-fno-gpu-approx-transcendentals f-fno-gpu-defer-diag",
  "f-fno-gpu-exclude-wrong-side-overloads f-fno-gpu-flush-denormals-to-zero f-fno-gpu-rdc",
  "f-fno-gpu-sanitize f-fno-hip-emit-relocatable f+-fno-hip-fp32-correctly-rounded-divide-sqrt",
  "f-fno-hip-kernel-arg-name f-fno-hip-new-launch-api f-fno-honor-infinites f-fno-honor-infinities",
  "f-fno-honor-nans f+-fno-ident f-fno-implement-inlines f-fno-implicit-module-maps",
  "n+-fno-implicit-modules-use-lock f+-fno-implicit-modules f-fno-implicit-templates",
  "f-fno-init-global-zero f-fno-init-local-zero f-fno-inline-functions-called-once",
  "f+-fno-inline-functions f-fno-inline-limit f-fno-inline-small-functions f+-fno-inline",
  "f-fno-integer-4-integer-8 f+-fno-integrated-as f-fno-integrated-cc1 f-fno-integrated-objemitter",
  "f-fno-ipa-cp f-fno-ivopts f-fno-jmc f+-fno-jump-tables f-fno-keep-inline-functions",
  "f-fno-keep-persistent-storage-variables f-fno-keep-static-consts f-fno-keep-system-includes",
  "f+-fno-knr-functions f-fno-lax-vector-conversions f-fno-limit-debug-info f+-fno-loop-interchange",
  "n+-fno-lto-unit f+-fno-lto n+-fno-math-builtin f-fno-math-errno f-fno-max-identifier-length",
  "f-fno-max-type-align f-fno-memory-profile f-fno-merge-all-constants f-fno-merge-constants",
  "f-fno-minimize-whitespace f-fno-module-file-deps f-fno-module-maps f-fno-module-private",
  "f+-fno-modulemap-allow-subdirectory-search j+-fno-modules-check-relocated f-fno-modules-decluse",
  "n+-fno-modules-error-recovery f+-fno-modules-force-validate-user-headers",
  "n+-fno-modules-global-index n+-fno-modules-prune-non-affecting-module-map-files",
  "f-fno-modules-reduced-bmi f+-fno-modules-search-all n+-fno-modules-share-filemanager",
  "n+-fno-modules-skip-diagnostic-options n+-fno-modules-skip-header-search-paths",
  "f-fno-modules-validate-system-headers f+-fno-modules-validate-textual-header-includes",
  "f-fno-modules f-fno-modulo-sched-allow-regmoves f-fno-modulo-sched f-fno-ms-compatibility",
  "f-fno-ms-extensions f+-fno-ms-tls-guards f-fno-ms-volatile f-fno-named-loops",
  "f+-fno-new-infallible f-fno-non-call-exceptions f-fno-objc-arc-exceptions f-fno-objc-arc",
  "f+-fno-objc-avoid-heapify-local-blocks f+-fno-objc-convert-messages-to-runtime-calls",
  "f-fno-objc-direct-precondition-thunk f-fno-objc-encode-cxx-class-template-spec",
  "f-fno-objc-exceptions f+-fno-objc-infer-related-result-type f-fno-objc-legacy-dispatch",
  "f-fno-objc-nonfragile-abi f+-fno-objc-weak f-fno-offload-implicit-host-device-templates",
  "f-fno-offload-lto f+-fno-offload-uniform-block f-fno-offload-via-llvm f-fno-omit-frame-pointer",
  "f+-fno-openmp-assume-teams-oversubscription f+-fno-openmp-assume-threads-oversubscription",
  "f-fno-openmp-cuda-mode f+-fno-openmp-extensions f-fno-openmp-new-driver f+-fno-openmp-simd",
  "f+-fno-openmp-target-debug f-fno-openmp-target-jit f+-fno-openmp-target-new-runtime",
  "f+-fno-openmp f+-fno-operator-names f+-fno-optimize-sibling-calls f-fno-pack-derived",
  "f-fno-pack-struct n+-fno-padding-on-unsigned-fixed-point f-fno-partition-static-data-sections",
  "f-fno-pascal-strings f-fno-pch-codegen f-fno-pch-debuginfo f+-fno-pch-instantiate-templates",
  "n+-fno-pch-timestamp f-fno-peel-loops f-fno-permissive f-fno-PIC f-fno-pic f-fno-PIE f-fno-pie",
  "f+-fno-plt f-fno-pointer-tbaa f+-fno-prebuilt-implicit-modules f-fno-prefetch-loop-arrays",
  "f+-fno-preserve-as-comments f-fno-printf f-fno-profile-arcs f-fno-profile-correction",
  "f-fno-profile-generate-sampling f-fno-profile-generate f-fno-profile-instr-generate",
  "f-fno-profile-instr-use f-fno-profile-reusedist f-fno-profile-sample-accurate",
  "f-fno-profile-sample-use f-fno-profile-use f-fno-profile-values f-fno-profile",
  "f-fno-protect-parens f+-fno-pseudo-probe-for-profiling f-fno-ptrauth-auth-traps",
  "f-fno-ptrauth-block-descriptor-pointers f-fno-ptrauth-calls f-fno-ptrauth-elf-got",
  "f-fno-ptrauth-function-pointer-type-discrimination f-fno-ptrauth-indirect-gotos",
  "f-fno-ptrauth-init-fini-address-discrimination f-fno-ptrauth-init-fini f-fno-ptrauth-intrinsics",
  "f-fno-ptrauth-objc-class-ro f-fno-ptrauth-objc-interface-sel f-fno-ptrauth-objc-isa",
  "f-fno-ptrauth-returns f-fno-ptrauth-type-info-vtable-pointer-discrimination",
  "f-fno-ptrauth-vtable-pointer-address-discrimination",
  "f-fno-ptrauth-vtable-pointer-type-discrimination f-fno-range-check f+-fno-raw-string-literals",
  "f-fno-real-4-real-10 f-fno-real-4-real-16 f-fno-real-4-real-8 f-fno-real-8-real-10",
  "f-fno-real-8-real-16 f-fno-real-8-real-4 f+-fno-reciprocal-math f-fno-record-command-line",
  "f-fno-record-gcc-switches n+-fno-recovery-ast-type n+-fno-recovery-ast f-fno-recursive",
  "f-fno-register-global-dtors-with-atexit f-fno-regs-graph f-fno-rename-registers",
  "f-fno-reorder-blocks f-fno-rewrite-imports f-fno-rewrite-includes f-fno-ripa f+-fno-ropi",
  "f+-fno-rounding-math f-fno-rtlib-add-rpath f-fno-rtlib-defaultlib f+-fno-rtti-data f+-fno-rtti",
  "f+-fno-rwpi f-fno-safe-buffer-usage-suggestions f-fno-sample-profile-use-profi",
  "f+-fno-sanitize-address-globals-dead-stripping f+-fno-sanitize-address-outline-instrumentation",
  "f+-fno-sanitize-address-poison-custom-array-cookie f+-fno-sanitize-address-use-after-scope",
  "f+-fno-sanitize-address-use-odr-indicator f+-fno-sanitize-alloc-token-extended",
  "f+-fno-sanitize-alloc-token-fast-abi j+-fno-sanitize-annotate-debug-info=",
  "f+-fno-sanitize-annotate-debug-info f+-fno-sanitize-blacklist",
  "f+-fno-sanitize-cfi-canonical-jump-tables f+-fno-sanitize-cfi-cross-dso",
  "j+-fno-sanitize-coverage= f+-fno-sanitize-debug-trap-reasons",
  "f+-fno-sanitize-handler-preserve-all-regs f+-fno-sanitize-hwaddress-experimental-aliasing",
  "f+-fno-sanitize-ignorelist f+-fno-sanitize-link-c++-runtime f+-fno-sanitize-link-runtime",
  "f+-fno-sanitize-memory-param-retval f+-fno-sanitize-memory-track-origins",
  "f+-fno-sanitize-memory-use-after-dtor j+-fno-sanitize-merge= f+-fno-sanitize-merge",
  "f+-fno-sanitize-minimal-runtime j+-fno-sanitize-recover= f+-fno-sanitize-recover",
  "f+-fno-sanitize-stable-abi f+-fno-sanitize-stats f+-fno-sanitize-thread-atomics",
  "f+-fno-sanitize-thread-func-entry-exit f+-fno-sanitize-thread-memory-access",
  "j+-fno-sanitize-trap= f+-fno-sanitize-trap f+-fno-sanitize-type-outline-instrumentation",
  "f+-fno-sanitize-undefined-trap-on-error j+-fno-sanitize= f-fno-save-optimization-record",
  "f-fno-schedule-insns2 f-fno-schedule-insns f-fno-second-underscore f-fno-see",
  "f-fno-semantic-interposition f-fno-separate-named-sections f-fno-short-enums f-fno-short-wchar",
  "f+-fno-show-column f+-fno-show-source-location f-fno-sign-zero f-fno-signaling-math",
  "f-fno-signaling-nans f+-fno-signed-char n+-fno-signed-wchar f+-fno-signed-zeros",
  "f-fno-single-precision-constant f+-fno-sized-deallocation f+-fno-skip-odr-check-in-gmf",
  "f-fno-slp-vectorize-aggressive f-fno-slp-vectorize f-fno-spec-constr-count f+-fno-spell-checking",
  "f-fno-split-dwarf-inlining f-fno-split-lto-unit f-fno-split-machine-functions f-fno-split-stack",
  "f-fno-stack-check f-fno-stack-clash-protection f-fno-stack-protector f-fno-stack-size-section",
  "f-fno-standalone-debug f-fno-strength-reduce f-fno-strict-aliasing f-fno-strict-enums",
  "f+-fno-strict-float-cast-overflow f-fno-strict-modules-decluse f-fno-strict-overflow",
  "f+-fno-strict-return f-fno-strict-vtable-pointers f-fno-struct-path-tbaa",
  "f+-fno-swift-version-independent-apinotes f-fno-sycl f+-fno-temp-file f-fno-test-coverage",
  "f+-fno-threadsafe-statics f-fno-tls-model f-fno-tracer f-fno-trapping-math f-fno-tree-dce",
  "f-fno-tree-salias f-fno-tree-slp-vectorize f-fno-tree-ter f-fno-tree-vectorizer-verbose",
  "f-fno-tree-vectorize f-fno-tree-vrp f+-fno-trigraphs f+-fno-unified-lto",
  "f-fno-unique-basic-block-section-names f-fno-unique-internal-linkage-names",
  "f+-fno-unique-section-names f-fno-unique-source-file-names f-fno-unit-at-a-time",
  "f-fno-unroll-all-loops f+-fno-unroll-loops f-fno-unsafe-loop-optimizations",
  "f-fno-unsafe-math-optimizations f-fno-unsigned-char f-fno-unswitch-loops f-fno-unwind-tables",
  "n+-fno-use-ctor-homing f+-fno-use-cxa-atexit f+-fno-use-init-array f-fno-use-line-directives",
  "f-fno-use-linker-plugin n+-fno-validate-pch f-fno-var-tracking",
  "f-fno-variable-expansion-in-unroller f-fno-vect-cost-model f-fno-vectorize f+-fno-verbose-asm",
  "f-fno-verify-intermediate-code f-fno-virtual-function-elimination",
  "f-fno-visibility-from-dllstorageclass f+-fno-visibility-inlines-hidden-static-local-var",
  "f-fno-visibility-inlines-hidden n+-fno-wchar f-fno-web f-fno-whole-file",
  "f-fno-whole-program-vtables f-fno-whole-program f-fno-working-directory f-fno-wrapv-pointer",
  "f-fno-wrapv f-fno-xl-pragma-pack f-fno-xray-always-emit-customevents",
  "f-fno-xray-always-emit-typedevents f+-fno-xray-function-index f-fno-xray-ignore-loops",
  "f-fno-xray-instrument f-fno-xray-link-deps f-fno-xray-shared f+-fno-zero-initialized-in-bss",
  "f+-fno-zos-extensions f-fno-zvector f-fno_modules-validate-input-files-content",
  "f-fno_pch-validate-input-files-content f-fnon-call-exceptions f+-fnoopenmp-relocatable-target",
  "f+-fnoopenmp-use-tls j-fobjc-abi-version= n+-fobjc-arc-cxxlib= f+-fobjc-arc-exceptions",
  "f+-fobjc-arc f-fobjc-atdefs f+-fobjc-avoid-heapify-local-blocks f-fobjc-call-cxx-cdtors",
  "f-fobjc-convert-messages-to-runtime-calls f+-fobjc-direct-precondition-thunk",
  "f+-fobjc-disable-direct-methods-for-testing n+-fobjc-dispatch-method=",
  "f+-fobjc-encode-cxx-class-template-spec f+-fobjc-exceptions n+-fobjc-gc-only n+-fobjc-gc",
  "f-fobjc-infer-related-result-type f-fobjc-legacy-dispatch f-fobjc-link-runtime",
  "f-fobjc-new-property j-fobjc-nonfragile-abi-version= f-fobjc-nonfragile-abi",
  "n+-fobjc-runtime-has-weak j+-fobjc-runtime= f-fobjc-sender-dependent-dispatch",
  "n+-fobjc-subscripting-legacy-runtime f+-fobjc-weak f+-foffload-implicit-host-device-templates",
  "j-foffload-lto= f-foffload-lto f+-foffload-uniform-block f+-foffload-via-llvm",
  "f-fomit-frame-pointer f+-fopenacc f+-fopenmp-assume-no-nested-parallelism",
  "f+-fopenmp-assume-no-thread-state f+-fopenmp-assume-teams-oversubscription",
  "f+-fopenmp-assume-threads-oversubscription j+-fopenmp-cuda-blocks-per-sm= f+-fopenmp-cuda-mode",
  "j+-fopenmp-cuda-number-of-sm= j+-fopenmp-cuda-teams-reduction-recs-num=",
  "f+-fopenmp-enable-irbuilder f+-fopenmp-extensions f+-fopenmp-force-usm",
  "n+-fopenmp-host-ir-file-path n+-fopenmp-is-device n+-fopenmp-is-target-device",
  "f-fopenmp-new-driver f+-fopenmp-offload-mandatory f+-fopenmp-optimistic-collapse",
  "f+-fopenmp-relocatable-target f+-fopenmp-simd j+-fopenmp-target-debug= f+-fopenmp-target-debug",
  "f-fopenmp-target-jit f+-fopenmp-target-new-runtime j+-fopenmp-targets= f-fopenmp-use-tls",
  "j+-fopenmp-version= j+-fopenmp= f+-fopenmp j+-foperator-arrow-depth= f-foperator-names",
  "j-foptimization-record-file= j-foptimization-record-passes= f-foptimize-sibling-calls",
  "j--for-linker= s--for-linker j--force-link= s--force-link f-force_cpusubtype_ALL",
  "f-force_flat_namespace s-force_load j-foutput-class-dir= n+-foverride-record-layout=",
  "f-fpack-derived j+-fpack-struct= f-fpack-struct n+-fpadding-on-unsigned-fixed-point",
  "f+-fparse-all-comments f+-fpartition-static-data-sections f+-fpascal-strings",
  "n+-fpass-by-value-is-noalias j+-fpass-plugin= n+-fpatchable-function-entry-offset=",
  "n+-fpatchable-function-entry-section= j+-fpatchable-function-entry= f+-fpcc-struct-return",
  "f+-fpch-codegen f+-fpch-debuginfo f+-fpch-instantiate-templates f-fpch-preprocess",
  "f-fpch-validate-input-files-content f-fpeel-loops f-fpermissive f-fPIC f-fpic f-fPIE f-fpie",
  "f-fplt j-fplugin-arg- j-fplugin= f-fpointer-tbaa f+-fprebuilt-implicit-modules",
  "j+-fprebuilt-module-path= f-fprefetch-loop-arrays f-fpreserve-as-comments f-fprintf",
  "j-fproc-stat-report= j-fproc-stat-report f-fprofile-arcs f+-fprofile-continuous",
  "f-fprofile-correction j-fprofile-dir= j+-fprofile-exclude-files= j+-fprofile-filter-files=",
  "j+-fprofile-function-groups= j-fprofile-generate-cold-function-coverage=",
  "f-fprofile-generate-cold-function-coverage f-fprofile-generate-sampling j-fprofile-generate=",
  "f-fprofile-generate j-fprofile-instr-generate= f-fprofile-instr-generate j-fprofile-instr-use=",
  "f-fprofile-instr-use n+-fprofile-instrument-path= n+-fprofile-instrument-use-path=",
  "n+-fprofile-instrument-use= n+-fprofile-instrument= j+-fprofile-list=",
  "j+-fprofile-remapping-file= f-fprofile-reusedist f+-fprofile-sample-accurate",
  "j+-fprofile-sample-use= j+-fprofile-selected-function-group= j+-fprofile-update= j-fprofile-use=",
  "f-fprofile-use f-fprofile-values f-fprofile f+-fprotect-parens f+-fpseudo-probe-for-profiling",
  "f+-fptrauth-auth-traps f+-fptrauth-block-descriptor-pointers f+-fptrauth-calls",
  "f+-fptrauth-elf-got f+-fptrauth-function-pointer-type-discrimination f+-fptrauth-indirect-gotos",
  "f+-fptrauth-init-fini-address-discrimination f+-fptrauth-init-fini f+-fptrauth-intrinsics",
  "f+-fptrauth-objc-class-ro f+-fptrauth-objc-interface-sel f+-fptrauth-objc-isa",
  "f+-fptrauth-returns f+-fptrauth-type-info-vtable-pointer-discrimination",
  "f+-fptrauth-vtable-pointer-address-discrimination f+-fptrauth-vtable-pointer-type-discrimination",
  "s-framework j-frandom-seed= j+-frandomize-layout-seed-file= j+-frandomize-layout-seed=",
  "f-frange-check f+-fraw-string-literals f-freal-4-real-10 f-freal-4-real-16 f-freal-4-real-8",
  "f-freal-8-real-10 f-freal-8-real-16 f-freal-8-real-4 f+-freciprocal-math f-frecord-command-line",
  "f-frecord-gcc-switches j-frecord-marker= n+-frecovery-ast-type n+-frecovery-ast f-frecursive",
  "f+-freg-struct-return f+-fregister-global-dtors-with-atexit f-fregs-graph f-frename-registers",
  "f-freorder-blocks f+-fretain-comments-from-system-headers f+-frewrite-imports",
  "f+-frewrite-includes f-fripa f+-fropi f+-frounding-math f-frtlib-add-rpath f-frtlib-defaultlib",
  "f-frtti-data f-frtti f+-frwpi f+-fsafe-buffer-usage-suggestions f+-fsample-profile-use-profi",
  "j+-fsanitize-address-destructor= j+-fsanitize-address-field-padding=",
  "f+-fsanitize-address-globals-dead-stripping f+-fsanitize-address-outline-instrumentation",
  "f+-fsanitize-address-poison-custom-array-cookie j+-fsanitize-address-use-after-return=",
  "f+-fsanitize-address-use-after-scope f+-fsanitize-address-use-odr-indicator",
  "f+-fsanitize-alloc-token-extended f+-fsanitize-alloc-token-fast-abi",
  "j+-fsanitize-annotate-debug-info= f+-fsanitize-annotate-debug-info j+-fsanitize-blacklist=",
  "f+-fsanitize-cfi-canonical-jump-tables f+-fsanitize-cfi-cross-dso",
  "f+-fsanitize-cfi-icall-experimental-normalize-integers",
  "f+-fsanitize-cfi-icall-generalize-pointers n+-fsanitize-coverage-8bit-counters",
  "j+-fsanitize-coverage-allowlist= n+-fsanitize-coverage-control-flow",
  "j+-fsanitize-coverage-ignorelist= n+-fsanitize-coverage-indirect-calls",
  "n+-fsanitize-coverage-inline-8bit-counters n+-fsanitize-coverage-inline-bool-flag",
  "n+-fsanitize-coverage-no-prune n+-fsanitize-coverage-pc-table",
  "j+-fsanitize-coverage-stack-depth-callback-min= n+-fsanitize-coverage-stack-depth",
  "n+-fsanitize-coverage-trace-bb n+-fsanitize-coverage-trace-cmp n+-fsanitize-coverage-trace-div",
  "n+-fsanitize-coverage-trace-gep n+-fsanitize-coverage-trace-loads",
  "n+-fsanitize-coverage-trace-pc-guard n+-fsanitize-coverage-trace-pc",
  "n+-fsanitize-coverage-trace-stores n+-fsanitize-coverage-type= j+-fsanitize-coverage=",
  "j+-fsanitize-debug-trap-reasons= f+-fsanitize-debug-trap-reasons",
  "f+-fsanitize-handler-preserve-all-regs j+-fsanitize-hwaddress-abi=",
  "f+-fsanitize-hwaddress-experimental-aliasing j+-fsanitize-ignorelist= f+-fsanitize-kcfi-arity",
  "j+-fsanitize-kcfi-hash= f+-fsanitize-link-c++-runtime f+-fsanitize-link-runtime",
  "f+-fsanitize-memory-param-retval j+-fsanitize-memory-track-origins=",
  "f+-fsanitize-memory-track-origins f+-fsanitize-memory-use-after-dtor j+-fsanitize-memtag-mode=",
  "j+-fsanitize-merge= f+-fsanitize-merge f+-fsanitize-minimal-runtime j+-fsanitize-recover=",
  "f+-fsanitize-recover j+-fsanitize-skip-hot-cutoff= f+-fsanitize-stable-abi f+-fsanitize-stats",
  "j+-fsanitize-system-ignorelist= f+-fsanitize-thread-atomics f+-fsanitize-thread-func-entry-exit",
  "f+-fsanitize-thread-memory-access j+-fsanitize-trap= f+-fsanitize-trap",
  "f+-fsanitize-type-outline-instrumentation j+-fsanitize-undefined-ignore-overflow-pattern=",
  "j+-fsanitize-undefined-strip-path-components= f+-fsanitize-undefined-trap-on-error j+-fsanitize=",
  "j-fsave-optimization-record= f-fsave-optimization-record f-fsched-interblock f-fschedule-insns2",
  "f-fschedule-insns f-fsecond-underscore f-fsee f-fseh-exceptions f+-fsemantic-interposition",
  "f+-fseparate-named-sections f+-fshort-enums f-fshort-wchar f-fshow-column j+-fshow-overloads=",
  "f+-fshow-skipped-includes f-fshow-source-location f-fsign-zero f-fsignaling-math",
  "f-fsignaling-nans f-fsigned-bitfields f-fsigned-char n+-fsigned-wchar f+-fsigned-zeros",
  "f-fsingle-precision-constant f+-fsized-deallocation f-fsjlj-exceptions f+-fskip-odr-check-in-gmf",
  "f-fslp-vectorize-aggressive f-fslp-vectorize f-fspec-constr-count j+-fspell-checking-limit=",
  "f-fspell-checking f+-fsplit-dwarf-inlining f+-fsplit-lto-unit f+-fsplit-machine-functions",
  "f+-fsplit-stack n+-fspv-enable-maximal-reconvergence j-fspv-extension= j-fspv-target-env=",
  "n+-fspv-use-unknown-image-format f-fstack-check f+-fstack-clash-protection",
  "f-fstack-protector-all f-fstack-protector-strong f-fstack-protector f+-fstack-size-section",
  "f-fstack-usage f-fstandalone-debug f-fstrength-reduce f-fstrict-aliasing f+-fstrict-enums",
  "j+-fstrict-flex-arrays= f-fstrict-float-cast-overflow f-fstrict-overflow f-fstrict-return",
  "f+-fstrict-vtable-pointers f-fstruct-path-tbaa j+-fswift-async-fp=",
  "f+-fswift-version-independent-apinotes f-fsycl-device-only f-fsycl-host-only n+-fsycl-is-device",
  "n+-fsycl-is-host f-fsycl j+-fsymbol-partition= f+-fsyntax-only f+-fsystem-module j-ftabstop=",
  "n+-ftabstop j+-ftemplate-backtrace-limit= j-ftemplate-depth- j+-ftemplate-depth=",
  "f-ftemporal-profile f-fterminated-vtables f-ftest-coverage n+-ftest-module-file-extension=",
  "j+-fthin-link-bitcode= j-fthinlto-distributor= j+-fthinlto-index= f-fthreadsafe-statics",
  "f+-ftime-report-json j+-ftime-report= f+-ftime-report j+-ftime-trace-granularity=",
  "j+-ftime-trace-verbose j+-ftime-trace= f-ftime-trace j+-ftls-model= f-ftls-model f-ftracer",
  "j+-ftrap-function= f-ftrapping-math j-ftrapv-handler= s+-ftrapv-handler f+-ftrapv f-ftree-dce",
  "f-ftree-salias f-ftree-slp-vectorize f-ftree-ter f-ftree-vectorizer-verbose f-ftree-vectorize",
  "f-ftree-vrp f+-ftrigraphs j+-ftrivial-auto-var-init-max-size=",
  "j+-ftrivial-auto-var-init-stop-after= j+-ftrivial-auto-var-init= n+-ftype-visibility=",
  "n+-function-alignment f+-funified-lto f+-funique-basic-block-section-names",
  "f+-funique-internal-linkage-names f-funique-section-names j+-funique-source-file-identifier=",
  "f-funique-source-file-names f-funit-at-a-time n+-funknown-anytype f-funroll-all-loops",
  "f+-funroll-loops f-funsafe-loop-optimizations f+-funsafe-math-optimizations",
  "f-funsigned-bitfields f-funsigned-char f-funswitch-loops n+-funwind-tables= f-funwind-tables",
  "n+-fuse-ctor-homing j-fuse-cuid= f-fuse-cxa-atexit f-fuse-init-array j-fuse-ld=",
  "f+-fuse-line-directives f-fuse-linker-plugin j-fuse-lipo= n+-fuse-register-sized-bitfield-access",
  "f+-fvalidate-ast-input-files-content f-fvariable-expansion-in-unroller j+-fveclib=",
  "f-fvect-cost-model f-fvectorize f+-fverbose-asm n+-fverify-debuginfo-preserve-export=",
  "n+-fverify-debuginfo-preserve f-fverify-intermediate-code f+-fvirtual-function-elimination",
  "j+-fvisibility-dllexport= j+-fvisibility-externs-dllimport=",
  "j+-fvisibility-externs-nodllstorageclass= f+-fvisibility-from-dllstorageclass",
  "f-fvisibility-global-new-delete-hidden j+-fvisibility-global-new-delete=",
  "f+-fvisibility-inlines-hidden-static-local-var f+-fvisibility-inlines-hidden",
  "f-fvisibility-ms-compat j+-fvisibility-nodllstorageclass= j+-fvisibility= n+-fwarn-stack-size=",
  "f-fwasm-exceptions n+-fwchar-type= f-fweb f-fwhole-file f+-fwhole-program-vtables",
  "f-fwhole-program j+-fwinx64-eh-unwindv2= f+-fwrapv-pointer f+-fwrapv f+-fwritable-strings",
  "f+-fxl-pragma-pack f+-fxray-always-emit-customevents f+-fxray-always-emit-typedevents",
  "j+-fxray-always-instrument= j+-fxray-attr-list= j+-fxray-function-groups= f-fxray-function-index",
  "f+-fxray-ignore-loops j+-fxray-instruction-threshold= j+-fxray-instrumentation-bundle=",
  "f+-fxray-instrument f-fxray-link-deps j+-fxray-modes= j+-fxray-never-instrument=",
  "j+-fxray-selected-function-group= f+-fxray-shared j+-fzero-call-used-regs=",
  "f-fzero-initialized-in-bss f+-fzos-extensions f+-fzvector b+-F f-g0 f-g1 f-g2 f-g3 j-G=",
  "f+-gcall-site-info j--gcc-install-dir= j--gcc-toolchain= j--gcc-triple=",
  "f+-gcodeview-command-line f+-gcodeview-ghash f+-gcodeview j-gcoff f-gcolumn-info f-gdbx",
  "f-gdwarf-2 f-gdwarf-3 f-gdwarf-4 f-gdwarf-5 f-gdwarf-6 f-gdwarf-aranges f+-gdwarf32 f+-gdwarf64",
  "f-gdwarf f+-gembed-source s-gen-cdb-fragment-path j-gen-reproducer= f-gen-reproducer f-gfull",
  "f-ggdb0 f-ggdb1 f-ggdb2 f-ggdb3 f-ggdb f+-ggnu-pubnames f-ginline-line-tables",
  "f+-gkey-instructions f-gline-directives-only f-gline-tables-only f-glldb f-gmlt f-gmodules",
  "f+-gno-call-site-info f+-gno-codeview-command-line f-gno-codeview-ghash f+-gno-column-info",
  "f-gno-embed-source f-gno-gnu-pubnames f+-gno-inline-line-tables f+-gno-key-instructions",
  "f-gno-modules f-gno-omit-unreferenced-methods f-gno-pubnames f-gno-record-command-line",
  "f-gno-record-gcc-switches f-gno-simple-template-names f-gno-split-dwarf f-gno-strict-dwarf",
  "f+-gno-structor-decl-linkage-names f-gno-template-alias f+-gomit-unreferenced-methods",
  "f--gpu-bundle-output j--gpu-instrument-lib= j+--gpu-max-threads-per-block=",
  "f--gpu-use-aux-triple-only f+-gpubnames f+-gpulibc f-grecord-command-line f-grecord-gcc-switches",
  "f-gsce n+--gsframe n+-gsimple-template-names= f-gsimple-template-names j-gsplit-dwarf=",
  "f-gsplit-dwarf n+-gsrc-hash= j-gstabs f+-gstrict-dwarf f+-gstructor-decl-linkage-names",
  "f+-gtemplate-alias f-gtoggle f-gused j-gvms j-gxcoff j-gz= f-gz b-G f-g n+-header-include-file",
  "n+-header-include-filtering= n+-header-include-format= j-headerpad_max_install_names",
  "f--help-hidden f+-help f--help j--hip-device-lib-path= j--hip-device-lib= f--hip-link",
  "j--hip-path= j--hip-version= j--hipspv-pass-plugin= f+--hipstdpar-interpose-alloc",
  "j--hipstdpar-path= j--hipstdpar-prim-path= j--hipstdpar-thrust-path= f+--hipstdpar s+-hlsl-entry",
  "f+-H j-I- b+-iapinotes-modules f-ibuiltininc b+-idirafter b+-iframeworkwithsysroot b+-iframework",
  "f-ignore-pch j+--imacros= b+-imacros b--imacros s-image_base n+-import-call-optimization",
  "s-imultilib j+--include-barrier b+--include-directory b+-include-pch j--include-pch",
  "b+--include-prefix b+--include-with-prefix j+--include= b+-include b--include n+-init-only",
  "s-init j+-inline-asm= s-install_name f-integrated-as b+-interface-stub-version=",
  "n+-internal-externc-isystem n+-internal-iframework n+-internal-isystem b+-iprefix b+-iquote",
  "b+-isysroot b-isystem-after b+-isystem b+-ivfsoverlay b+-iwithprefixbefore b+-iwithprefix",
  "b+-iwithsysroot b+-I f-keep_private_externs f-K j--language= s--language j--ld-path=",
  "j--libclc-lib= j--libomptarget-amdgcn-bc-path= j--libomptarget-amdgpu-bc-path=",
  "j--libomptarget-nvptx-bc-path= j--libomptarget-spirv-bc-path= j--library-directory=",
  "s--library-directory n+--linker-option= n+-llvm-verify-each n+-loader-replaceable-function=",
  "n+-load b-L b-l f-m16 f-m32 f-m3dnowa f-m3dnow f-m64 f-m68000 f-m68010 f-m68020 f-m68030",
  "f-m68040 f-m68060 f-m68881 f-m80387 n+-mabi=ieeelongdouble j+-mabi=quadword-atomics",
  "n+-mabi=vec-extabi j+-mabi= f-mabicalls j-mabs= f-Mach f-madx f-maes n+-main-file-name",
  "f-maix-shared-lib-tls-model-opt f-maix-small-local-dynamic-tls f-maix-small-local-exec-tls",
  "f+-maix-struct-return f-maix32 f-maix64 j-malign-branch-boundary= j-malign-branch=",
  "f+-malign-double j-malign-functions= j-malign-jumps= j-malign-loops= f-maltivec",
  "f+-mamdgpu-expand-waitcnt-profiling f-mamdgpu-ieee f-mamdgpu-precise-memory-op f-mamx-avx512",
  "f-mamx-bf16 f-mamx-complex f-mamx-fp16 f-mamx-fp8 f-mamx-int8 f-mamx-movrs f-mamx-tf32",
  "f-mamx-tile f-mannotate-tablejump j-mappletvos-version-min= j-mappletvsimulator-version-min=",
  "j-mapx-features= f-mapx-inline-asm-use-gpr32 f-mapxf j-march= j-marm64x f-marm j-masm=",
  "n+-massembler-fatal-warnings n+-massembler-no-warn f-matomics f-mavx10.1 f-mavx10.2 f-mavx2",
  "f-mavx512bf16 f-mavx512bitalg f-mavx512bw f-mavx512cd f-mavx512dq f-mavx512fp16 f-mavx512f",
  "f-mavx512ifma f-mavx512vbmi2 f-mavx512vbmi f-mavx512vl f-mavx512vnni f-mavx512vp2intersect",
  "f-mavx512vpopcntdq f-mavxifma f-mavxneconvert f-mavxvnniint16 f-mavxvnniint8 f-mavxvnni f-mavx",
  "f+-mbackchain f-mbig-endian f-mbmi2 f-mbmi f-mbranch-likely n+-mbranch-protection-pauth-lr",
  "j-mbranch-protection= n+-mbranch-target-enforce f-mbranches-within-32B-boundaries",
  "f-mbulk-memory-opt f-mbulk-memory f-mcabac f-mcall-indirect-overlong j+-mcf-branch-label-scheme=",
  "f-mcheck-zero-division f-mcldemote f-mclflushopt f-mclwb f-mclzero j+-mcmodel= f-mcmpb",
  "f-mcmpccxadd f+-mcmse j+-mcode-object-version= j-mcompact-branches= j-mconsole",
  "f-mconstant-cfstrings f+-mconstructor-aliases n+-mcpu=help j-mcpu= f-mcrbits f-mcrc32 f-mcrc",
  "f-mcrypto f-mcumode f-mcx16 f-mdaz-ftz n+-mdebug-pass j-mdefault-build-attributes",
  "j+-mdefault-visibility-export-mapping= f-mdirect-move f-mdiv32 j-mdll f-mdouble-float",
  "j+-mdouble= f-mdspr2 f-mdsp j-mdynamic-no-pic f-MD s+-meabi f-mefpu2 f-membedded-data",
  "f-menable-experimental-extensions n+-menable-no-infs n+-menable-no-nans f-menqcmd",
  "f-mexception-handling j-mexec-model= f-mexecute-only f-mextended-const f-mextern-sdata f-mf16c",
  "f-mfancy-math-387 f+-mfentry f-mfix-and-continue f-mfix-cmse-cve-2021-35465",
  "f-mfix-cortex-a53-835769 f-mfix-cortex-a53-843419 f-mfix-cortex-a57-aes-1742098",
  "f-mfix-cortex-a72-aes-1655431 f-mfix-gr712rc f-mfix-ut700 f-mfix4300 j-mfloat-abi= n+-mfloat-abi",
  "f-mfloat128 f-mfma4 f-mfma f-mfp16 f-mfp32 f-mfp64 j-mfpmath= n+-mfpmath f-mfprnd j-mfpu= f-mfpu",
  "f-mfpxx j-mframe-chain= n+-mframe-pointer= f-mfrecipe f-mfsgsbase f-mfsmuld j+-mfunction-return=",
  "f-mfxsr b-MF f-mgc f-mgeneral-regs-only f-mgfni f-mginv f-mglibc f+-mglobal-merge f-mgpopt",
  "j-mguard= n+-mguarded-control-stack f+-MG f-mhard-float f-mhard-quad-float j-mharden-sls=",
  "f-mhreset f-mhtm f-mhvx-ieee-fp j-mhvx-length= f-mhvx-qfloat j-mhvx= f-mhvx j--mhwdiv= j-mhwdiv=",
  "s--mhwdiv j-mhwmult= f-miamcu f-mieee-fp f-mieee-rnd-near f+-mignore-xcoff-visibility",
  "f-mimplicit-float j-mimplicit-it= f+-mincremental-linker-compatible",
  "f+-mindirect-branch-cs-prefix j-mindirect-jump= f-minline-all-stringops",
  "f-minvariant-function-descriptors f-minvpcid j-mios-simulator-version-min= j-mios-version-min=",
  "j-miphoneos-version-min= j-miphonesimulator-version-min= f-mips16 f-mips1 f-mips2 f-mips32r2",
  "f-mips32r3 f-mips32r5 f-mips32r6 f-mips32 f-mips3 f-mips4 f-mips5 f-mips64r2 f-mips64r3",
  "f-mips64r5 f-mips64r6 f-mips64 f-misel b-MJ f-mkernel f-mkl f-mlam-bh f-mlamcas",
  "j+-mlarge-data-threshold= f-mlasx f-mld-seq-sa f-mldc1-sdc1 n+-mlimit-float-precision",
  "n+-mlink-bitcode-file f+-mlink-builtin-bitcode-postopt n+-mlink-builtin-bitcode",
  "j-mlinker-version= f-mlittle-endian j-mllvm= s+-mllvm f-mlocal-sdata f-mlong-calls",
  "f+-mlong-double-128 f+-mlong-double-64 f+-mlong-double-80 f-mlongcall f-mlr-for-calls-only",
  "f-mlsx f-mlvi-cfi f-mlvi-hardening f-mlwp f-mlzcnt j+-mmacos-version-min=",
  "j+-mmacosx-version-min= f-mmadd4 n+-mmapsyms=implicit f-mmark-bti-property j-mmcu= f-MMD",
  "f+-mmemops f-mmfcrf f-mmfocrf f-mmicromips s+-mmlir f-mmma f-mmmx f-mmovbe f-mmovdir64b",
  "f-mmovdiri f-mmovrs f-mmpx f-mms-bitfields f+-mmsa f-mmt f-mmultimemory f-mmultivalue",
  "f-mmutable-globals f-mmwaitx f-MM j-mnan= f-mno-3dnowa f-mno-3dnow f-mno-80387 f-mno-abicalls",
  "f-mno-adx f-mno-aes f-mno-altivec f-mno-amdgpu-expand-waitcnt-profiling f+-mno-amdgpu-ieee",
  "f-mno-amdgpu-precise-memory-op f-mno-amx-avx512 f-mno-amx-bf16 f-mno-amx-complex f-mno-amx-fp16",
  "f-mno-amx-fp8 f-mno-amx-int8 f-mno-amx-movrs f-mno-amx-tf32 f-mno-amx-tile",
  "f-mno-annotate-tablejump j-mno-apx-features= f-mno-apxf f-mno-atomics f-mno-avx10.1",
  "f-mno-avx10.2 f-mno-avx2 f-mno-avx512bf16 f-mno-avx512bitalg f-mno-avx512bw f-mno-avx512cd",
  "f-mno-avx512dq f-mno-avx512fp16 f-mno-avx512f f-mno-avx512ifma f-mno-avx512vbmi2",
  "f-mno-avx512vbmi f-mno-avx512vl f-mno-avx512vnni f-mno-avx512vp2intersect f-mno-avx512vpopcntdq",
  "f-mno-avxifma f-mno-avxneconvert f-mno-avxvnniint16 f-mno-avxvnniint8 f-mno-avxvnni f-mno-avx",
  "f+-mno-backchain f-mno-bmi2 f-mno-bmi f-mno-branch-likely f-mno-bti-at-return-twice",
  "f-mno-bulk-memory-opt f-mno-bulk-memory f-mno-call-indirect-overlong f-mno-check-zero-division",
  "f-mno-cldemote f-mno-clflushopt f-mno-clwb f-mno-clzero f-mno-cmpb f-mno-cmpccxadd",
  "f-mno-constant-cfstrings f+-mno-constructor-aliases f-mno-crbits f-mno-crc32 f-mno-crc",
  "f-mno-crypto f-mno-cumode f-mno-cx16 f-mno-daz-ftz j-mno-default-build-attributes",
  "f-mno-direct-move f-mno-div32 f-mno-dspr2 f-mno-dsp f-mno-embedded-data f-mno-enqcmd",
  "f-mno-exception-handling f-mno-execute-only f-mno-extended-const f-mno-extern-sdata f-mno-f16c",
  "f-mno-fix-cmse-cve-2021-35465 f-mno-fix-cortex-a53-835769 f-mno-fix-cortex-a53-843419",
  "f-mno-fix-cortex-a57-aes-1742098 f-mno-fix-cortex-a72-aes-1655431 f-mno-float128 f-mno-fma4",
  "f-mno-fma f+-mno-fmv f-mno-fp-ret-in-387 f-mno-fp16 f-mno-fprnd f-mno-fpu f-mno-frecipe",
  "f-mno-fsgsbase f-mno-fsmuld f-mno-fxsr f-mno-gather f-mno-gc f-mno-gfni f-mno-ginv",
  "f+-mno-global-merge f-mno-gpopt f-mno-hreset f-mno-htm f-mno-hvx-ieee-fp f-mno-hvx-qfloat",
  "f-mno-hvx f-mno-iamcu f-mno-implicit-float f-mno-incremental-linker-compatible",
  "f-mno-inline-all-stringops f-mno-invariant-function-descriptors f-mno-invpcid f-mno-isel",
  "f-mno-kl f-mno-lam-bh f-mno-lamcas f-mno-lasx f-mno-ld-seq-sa f-mno-ldc1-sdc1",
  "f+-mno-link-builtin-bitcode-postopt f-mno-local-sdata f-mno-long-calls f-mno-longcall f-mno-lsx",
  "f-mno-lvi-cfi f-mno-lvi-hardening f-mno-lwp f-mno-lzcnt f-mno-madd4 f+-mno-memops f-mno-mfcrf",
  "f-mno-mfocrf f-mno-micromips f-mno-mips16 f-mno-mma f-mno-mmx f-mno-movbe f-mno-movdir64b",
  "f-mno-movdiri f-mno-movrs f-mno-movt f-mno-mpx f-mno-ms-bitfields f-mno-msa f-mno-mt",
  "f-mno-multimemory f-mno-multivalue f-mno-mutable-globals f-mno-mwaitx f-mno-neg-immediates",
  "f-mno-nontrapping-fptoint f+-mno-nvj f+-mno-nvs f-mno-odd-spreg f-mno-omit-leaf-frame-pointer",
  "f+-mno-outline-atomics f+-mno-outline f+-mno-packed-stack f+-mno-packets",
  "f-mno-paired-vector-memops f-mno-pascal-strings f-mno-pclmul f-mno-pconfig f-mno-pcrel",
  "f-mno-pic-data-is-text-relative f-mno-pku f-mno-popcntd f-mno-popcnt f-mno-popc",
  "f-mno-power10-vector f-mno-power8-vector f-mno-power9-vector f-mno-prefetchi f-mno-prefixed",
  "f-mno-prfchw f-mno-ptwrite f-mno-pure-code f-mno-raoint f-mno-rdpid f-mno-rdpru f-mno-rdrnd",
  "f-mno-rdseed f-mno-red-zone f-mno-reference-types f-mno-regnames f-mno-relax-all",
  "f-mno-relax-pic-calls f-mno-relaxed-simd f-mno-relax f-mno-reserve-frame-pointer-reg",
  "f-mno-restrict-it f-mno-retpoline-external-thunk f-mno-retpoline f-mno-rtd f-mno-rtm f-mno-sahf",
  "f-mno-save-restore f-mno-scalar-strict-align f-mno-scatter f-mno-scq f-mno-serialize f-mno-seses",
  "f-mno-sgx f-mno-sha512 f-mno-sha f-mno-shstk f-mno-sign-ext f-mno-simd128 f+-mno-skip-rax-setup",
  "f-mno-sm3 f-mno-sm4 f-mno-soft-float f-mno-speculative-load-hardening f-mno-spe f-mno-sse2",
  "f-mno-sse3 f-mno-sse4.1 f-mno-sse4.2 f-mno-sse4a f-mno-sse4 f-mno-sse f-mno-ssse3",
  "f+-mno-stack-arg-probe f-mno-stackrealign f-mno-strict-align f-mno-tail-call f-mno-tbm",
  "f-mno-tgsplit f-mno-thumb f+-mno-tls-direct-seg-refs j+-mno-tocdata= f+-mno-tocdata",
  "f-mno-tsxldtrk n+-mno-type-check f-mno-uintr f-mno-unaligned-access f-mno-unaligned-symbols",
  "f-mno-unsafe-fp-atomics f-mno-usermsr f-mno-v8plus f-mno-vaes f-mno-vector-strict-align",
  "f-mno-vevpu f-mno-virt f-mno-vis2 f-mno-vis3 f-mno-vis f-mno-vpclmulqdq f-mno-vsx f-mno-vx",
  "f-mno-vzeroupper f-mno-waitpkg f-mno-warn-nonportable-cfstrings f-mno-wavefrontsize64",
  "f-mno-wbnoinvd f-mno-wide-arithmetic f-mno-widekl f-mno-x87 f-mno-xcoff-roptr f-mno-xgot",
  "f-mno-xop f-mno-xsavec f-mno-xsaveopt f-mno-xsaves f-mno-xsave f-mno-zvector f-mnocrc",
  "n+-mnoexecstack f-mnontrapping-fptoint f+-mnop-mcount f+-mnvj f+-mnvs f-modd-spreg",
  "s+-module-dependency-dir n+-module-file-deps f+-module-file-info f-momit-leaf-frame-pointer",
  "j-moslib= f+-moutline-atomics f+-moutline f+-mpacked-stack f+-mpackets j-mpad-max-prefix-size=",
  "f-mpaired-vector-memops f-mpascal-strings f-mpclmul f-mpconfig f-mpcrel",
  "f-mpic-data-is-text-relative f-mpku f-mpopcntd f-mpopcnt f-mpopc f-mpower10-vector",
  "f-mpower8-vector f-mpower9-vector j+-mprefer-vector-width= f-mprefetchi f-mprefixed f-mprfchw",
  "j+-mprintf-kind= f-mprivileged f-mptwrite f-mpure-code f+-MP f+-mqdsp6-compat b+-MQ f-mraoint",
  "f-mrdpid f-mrdpru f-mrdrnd f-mrdseed n+-mreassociate j+-mrecip= f+-mrecip f+-mrecord-mcount",
  "f-mred-zone f-mreference-types f+-mregnames j-mregparm= n+-mregparm f+-mrelax-all",
  "f-mrelax-pic-calls n+-mrelax-relocations=no f-mrelaxed-simd f-mrelax n+-mrelocation-model",
  "f-mreserve-frame-pointer-reg f-mrestrict-it f-mretpoline-external-thunk f-mretpoline",
  "f-mrop-protect f+-mrtd f-mrtm j-mrvv-vector-bits= f-msahf f+-msave-reg-params f-msave-restore",
  "n+-msave-temp-labels f-mscalar-strict-align f-mscq f-msecure-plt f-mserialize f-mseses f-msgx",
  "f-msha512 f-msha f-mshstk f-msign-ext n+-msign-return-address-key= j+-msign-return-address=",
  "f-msimd128 j-msimd= f-msim f-msingle-float f+-mskip-rax-setup f-msm3 f-msm4 j-msmall-data-limit=",
  "n+-msmall-data-limit j-msmall-data-threshold= f+-msoft-float f-msoft-quad-float",
  "f+-mspeculative-load-hardening f-mspe f+-msse2avx f-msse2 f-msse3 f-msse4.1 f-msse4.2 f-msse4a",
  "f-msse4 f-msse f-mssse3 j+-mstack-alignment= f-mstack-arg-probe j+-mstack-probe-size=",
  "j+-mstack-protector-guard-offset= j+-mstack-protector-guard-reg=",
  "j+-mstack-protector-guard-symbol= j+-mstack-protector-guard= f+-mstackrealign f-mstrict-align",
  "j-msve-streaming-vector-bits= j-msve-vector-bits= f+-msvr4-struct-return f-mtail-call",
  "j-mtargetos= f-mtbm f-mtgsplit s+-mthread-model j-mthreads f-mthumb j-mtls-dialect=",
  "f-mtls-direct-seg-refs j+-mtls-size= j+-mtocdata= f+-mtocdata j-mtp= n+-mtp f-mtsxldtrk",
  "n+-mtune=help j-mtune= j-mtvos-simulator-version-min= j-mtvos-version-min= b+-MT f-muclibc",
  "f-muintr j-multi-lib-config= j--multi-lib-config= f-multi_module s-multiply_defined_unused",
  "s-multiply_defined f-munaligned-access f-munaligned-symbols j-municode f+-munsafe-fp-atomics",
  "f-musermsr f-mv55 f-mv5 f-mv60 f-mv62 f-mv65 f-mv66 f-mv67t f-mv67 f-mv68 f-mv69 f-mv71t f-mv71",
  "f-mv73 f-mv75 f-mv79 f-mv81 f-mv8plus f-mvaes f-mvector-strict-align f-mvevpu f-mvirt f-mvis2",
  "f-mvis3 f-mvis f-mvpclmulqdq n+-mvscale-max= n+-mvscale-min= n+-mvscale-streaming-max=",
  "n+-mvscale-streaming-min= f-mvsx f-mvx f-mvzeroupper f+-MV f-mwaitpkg",
  "f-mwarn-nonportable-cfstrings j-mwatchos-simulator-version-min= j-mwatchos-version-min=",
  "j-mwatchsimulator-version-min= f-mwavefrontsize64 f-mwbnoinvd f-mwide-arithmetic f-mwidekl",
  "j-mwindows f-mx32 f-mx87 j-mxcoff-build-id= f+-mxcoff-roptr f-mxgot f-mxop f-mxsavec f-mxsaveopt",
  "f-mxsaves f-mxsave j-mzos-hlq-clang= j-mzos-hlq-csslib= j-mzos-hlq-le= j-mzos-sys-include=",
  "j+-mzos-target= f-mzvector f-M n+-new-struct-path-tbaa f-no-canonical-prefixes",
  "n+-no-clear-ast-before-backend n+-no-code-completion-globals",
  "n+-no-code-completion-ns-level-decls f-no-cpp-precomp j--no-cuda-gpu-arch=",
  "j--no-cuda-include-ptx= f--no-cuda-noopt-device-debug f--no-cuda-version-check",
  "f--no-default-config n+-no-disable-free n+-no-emit-llvm-uselists n+-no-enable-noundef-analysis",
  "n+-no-finalize-removal f--no-gpu-bundle-output f-no-hip-rt n+-no-implicit-float",
  "f+-no-integrated-as f-no-integrated-cpp f--no-integrated-cpp f--no-line-commands",
  "n+-no-ns-alloc-error f--no-offload-add-rpath j--no-offload-arch= f--no-offload-compress",
  "f--no-offload-inc f+--no-offload-new-driver f+--no-offloadlib f-no-pedantic f--no-pedantic",
  "f-no-pie n+-no-pointer-tbaa f+-no-pthread n+-no-round-trip-args f--no-standard-includes",
  "f--no-standard-libraries n+-no-struct-path-tbaa j+--no-system-header-prefix=",
  "s--no-system-header-prefix f--no-undefined f-no-use-spirv-backend f+--no-warnings f--no-wasm-opt",
  "f-no_dead_strip_inits_and_terms f+-nobuiltininc f-nocudainc f-nocudalib f-nodefaultlibs",
  "f-nodriverkitlib f-nofixprebinding f-nogpuinc f+-nogpulibc f+-nogpulib f-nohipwrapperinc",
  "f-nolibc f-nomultidefs f-nopie f-noprebind f-noprofilelib f-noseglinkedit f-nostartfiles",
  "f+-nostdinc++ f-nostdinc f-nostdlib++ f-nostdlibinc f-nostdlib n+-nostdsysteminc",
  "j--nvptx-arch-tool= j+-O0 j+-O4 j-ObjC++ n+-objc-isystem n+-objcxx-isystem j-ObjC",
  "j+-object-file-name= j+-Ofast f--offload-add-rpath j--offload-arch-tool= j--offload-arch=",
  "j--offload-compression-level= f--offload-compress f--offload-device-only f--offload-host-device",
  "f--offload-host-only f--offload-inc j--offload-jobs= f--offload-link f+--offload-new-driver",
  "j+--offload-targets= j--offload= f+--offloadlib n+-opt-record-file n+-opt-record-format",
  "n+-opt-record-passes j--optimize= f--optimize n+--output-asm-variant= j--output-class-directory=",
  "s--output-class-directory j--output= s--output j+-O b+-o b-pagezero_size j--param= s--param",
  "f-pass-exit-codes f--pass-exit-codes n+-pch-through-hdrstop-create n+-pch-through-hdrstop-use",
  "n+-pch-through-header= f+-pedantic-errors f--pedantic-errors f+-pedantic f--pedantic f+-pg",
  "n+-pic-is-pie n+-pic-level f-pie f-pipe f--pipe n+-plugin-arg- n+-plugin n+-pointer-tbaa",
  "n+-preamble-bytes= f-prebind_all_twolevel_modules f-prebind f--precompile j--prefix= s--prefix",
  "f-preload f--preprocess f+--pretty-sgf n+-print-dependency-directives-minimized-source",
  "f--print-diagnostic-categories f-print-diagnostic-options f--print-diagnostic-options",
  "f-print-effective-triple f--print-effective-triple f+-print-enabled-extensions",
  "f--print-enabled-extensions j-print-file-name= j--print-file-name= s--print-file-name",
  "f+-print-ivar-layout f-print-libgcc-file-name f--print-libgcc-file-name",
  "f-print-library-module-manifest-path f--print-library-module-manifest-path",
  "f--print-missing-file-dependencies f-print-multi-directory f--print-multi-directory",
  "f-print-multi-flags-experimental f--print-multi-flags-experimental f-print-multi-lib",
  "f--print-multi-lib f-print-multi-os-directory f--print-multi-os-directory f-print-multiarch",
  "f--print-multiarch n+-print-preamble j-print-prog-name= j--print-prog-name= s--print-prog-name",
  "f-print-resource-dir f--print-resource-dir f-print-rocm-search-dirs f--print-rocm-search-dirs",
  "f-print-runtime-dir f--print-runtime-dir f-print-search-dirs f--print-search-dirs n+-print-stats",
  "f+-print-supported-cpus f--print-supported-cpus f+-print-supported-extensions",
  "f--print-supported-extensions f-print-target-triple f--print-target-triple f-print-targets",
  "f--print-targets f-private_bundle j+--product-name= f--profile f-pthreads f+-pthread",
  "j--ptxas-path= f+-P f-p f+-Qn f-Qunused-arguments f+-Qy f-Q f-rdynamic s-read_only_relocs",
  "n+-record-command-line j-reexport-l s-reexport_framework b-reexport_library f+-regcall4",
  "n+-relaxed-aliasing f+-relocatable-pch f--relocatable-pch n+-remap-file f-remap j-resource-dir=",
  "s+-resource-dir j--resource= s--resource f-rewrite-legacy-objc n+-rewrite-macros f+-rewrite-objc",
  "n+-rewrite-test j--rocm-device-lib-path= j--rocm-path= n+-round-trip-args j+-Rpass-analysis=",
  "j+-Rpass-missed= j+-Rpass= s-rpath j--rsp-quoting= j-rtlib= j--rtlib= s--rtlib j+-R f-r",
  "j-save-stats= j--save-stats= f-save-stats f--save-stats j+-save-temps= j--save-temps=",
  "f-save-temps f--save-temps 3-sectalign 3-sectcreate 2-sectobjectsymbols 3-sectorder b-seg1addr",
  "s-seg_addr_table_filename s-seg_addr_table 2-segaddr 3-segcreate f-seglinkedit 3-segprot",
  "j-segs_read_ n+-serialize-diagnostic-file s-serialize-diagnostics s--serialize-diagnostics",
  "n+-setup-static-analyzer f-shared-libasan f-shared-libgcc f-shared-libsan f-shared f--shared",
  "n+--show-includes f--signed-char f-single_module n+-skip-function-bodies n+-source-date-epoch",
  "j-specs= j--specs= s-specs s--specs n+-split-dwarf-file n+-split-dwarf-output",
  "n+-stack-protector-buffer-size n+-stack-protector n+-stack-usage-file",
  "f--start-no-unused-arguments f-startfiles n+-static-define f-static-libasan f+-static-libclosure",
  "f-static-libgcc f-static-libgfortran f-static-libsan f-static-libstdc++ f-static-openmp",
  "f-static-pie f-static f--static n+-stats-file-append n+-stats-file-timers n+-stats-file=",
  "j-std-default= j+-std= j--std= b-stdlib++-isystem j+-stdlib= j--stdlib= s--stdlib f-stdlib",
  "s--std b-sub_library b-sub_umbrella f--sycl-link j+-sycl-std= j+--symbol-graph-dir=",
  "n+-sys-header-deps j--sysroot= s--sysroot j+--system-header-prefix= s--system-header-prefix f+-S",
  "f-s n+-target-abi n+-target-cpu n+-target-feature f--target-help n+-target-linker-version",
  "n+-target-sdk-version= j--target= s-target n+-templight-dump f-time f--trace-includes",
  "f+-traditional-cpp f--traditional-cpp f-traditional f--traditional f-trigraphs f--trigraphs",
  "n+-trim-egraph n+-triple= n+-triple n+-tune-cpu f-twolevel_namespace_hints f-twolevel_namespace",
  "b-T f-t j--undefine-macro= s--undefine-macro b-undefined j+-undef n+-unoptimized-cfg",
  "f--unsigned-char j+-unwindlib= j--unwindlib= j-use-spirv-backend f--user-dependencies b+-U b-u",
  "n+-vectorize-loops n+-vectorize-slp f--verbose f--verify-debug-info n+-verify-ignore-unexpected=",
  "n+-verify-ignore-unexpected f+-verify-pch n+-verify= n+-verify f--version n+-version",
  "b+-vfsoverlay b--vfsoverlay f-via-file-asm f--via-file-asm n+-vtordisp-mode= b-V f+-v j-Wa,",
  "j+-Wall j--warn- j+--warning-suppression-mappings= f--wasm-opt j+-WCL4 j+-Wdeprecated j-weak-l",
  "s-weak_framework s-weak_library s-weak_reference_mismatches j+-Wframe-larger-than= f-whatsloaded",
  "f-why_load f-whyload j+-Winvalid-constexpr j+-Winvalid-gnu-asm-cast j-Wl, j-Wlarge-by-value-copy",
  "j+-Wno-deprecated j+-Wno-invalid-constexpr j+-Wno-nonportable-cfstrings n+-Wno-rewrite-macros",
  "j+-Wno-system-headers j+-Wno-write-strings j+-Wnonportable-cfstrings j+-working-directory=",
  "s+-working-directory j-Wp, f--write-dependencies f--write-user-dependencies",
  "j+-Wsystem-headers-in-module= j+-Wsystem-headers j+-Wundef-prefix= j+-Wwrite-strings j+-W f+-w",
  "s-Xanalyzer b-Xarch_device b-Xarch_host b-Xarch_ s-Xassembler j-Xclang= j-Xclangas= s-Xclangas",
  "s-Xclang f-Xcompiler s-Xcuda-fatbinary s-Xcuda-ptxas s-Xlinker s-Xmicrosoft-visualc-tools-root",
  "s-Xmicrosoft-visualc-tools-version s-Xmicrosoft-windows-sdk-root",
  "s-Xmicrosoft-windows-sdk-version s-Xmicrosoft-windows-sys-root b-Xoffload-linker",
  "b-Xopenmp-target= s-Xopenmp-target f-Xparser s-Xpreprocessor j-Xthinlto-distributor= f-X b+-x",
  "j-y f-Z-reserved-lib-cckext f-Z-reserved-lib-stdc++ f-Z-Xlinker-no-demangle s-Zlinker-input f-Z",
  "s-z"]

end NativeBindings.Header
