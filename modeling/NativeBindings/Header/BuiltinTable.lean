/-!
# The table of builtin functions

The front end knows a few hundred functions by name without a declaration: the GNU builtins,
whose names start with `__builtin_`, the atomic and synchronizing operations, some of
Microsoft's intrinsics, and the functions of the C library that it treats as builtins. Each
entry gives the function's type and properties in the compact notation of such tables:

* the type is a list of type codes, the result first and then the parameters, and a final `.`
  when the function takes more arguments; a code is a base letter (`v` void, `b` `_Bool`, `c`
  char, `s` short, `i` int, `h` `__fp16`, `x` `_Float16`, `y` `__bf16`, `f` float, `d` double,
  `z` `size_t`, `w` `wchar_t`, `Y` `ptrdiff_t`, `a` `va_list`, `P` `FILE`, `J` `jmp_buf`, `p`
  `pid_t`) after modifiers (`S` signed, `U` unsigned, `L` long, once to three times, `N` a
  32-bit `int` or `long`, `W` the 64-bit integer, `Z` the 32-bit integer, `O` long long, `I`
  a constant, `X` complex) and before suffixes (`*` pointer, `&` reference, `C` const, `D`
  volatile, `R` restrict);
* the properties are letters: `t` for a function whose calls are checked by rules of their own
  rather than by its type, `E` for one that constant expressions may call, `f` for a function of
  the library, named without `__builtin_`, and others that do not matter here.

`BuiltinScope` tells where a function is known at all.

The table is written as words with one space between them, three to a function: its name, its
type and its properties, `-` standing for an empty one. The words of each scope are cut into
pieces of a hundred characters or so, read in order as one.
-/

namespace NativeBindings.Header

/-- Where a builtin function is known. -/
inductive BuiltinScope where
  | everywhere
  /-- Only with the GNU extensions. -/
  | gnu
  /-- Only with Microsoft's extensions. -/
  | microsoft
  /-- Only in C++. -/
  | cxx
  /-- Only on x86 processors. -/
  | x86
  /-- Only on 64-bit x86 processors. -/
  | x86_64
deriving DecidableEq, Inhabited, Repr

/-- A builtin function: its name, its type and its properties in the table's notation, and
where it is known. -/
structure BuiltinFunction where
  name : String
  signature : String
  properties : String
  scope : BuiltinScope
deriving Inhabited, Repr

/-- The builtin functions of each scope, in pieces read in order as one (see the module
header). -/
def builtinWords : List (BuiltinScope × List String) := [
  (.everywhere, [
    "__builtin_atan2 ddd Fne __builtin_atan2f fff Fne __builtin_atan2l LdLdLd Fne",
    "__builtin_atan2f128 LLdLLdLLd Fne __builtin_abs ii ncF __builtin_copysign ddd ncFE",
    "__builtin_copysignf fff ncFE __builtin_copysignl LdLdLd ncFE __builtin_copysignf128",
    "LLdLLdLLd ncFE __builtin_copysignf16 hhh ncF __builtin_fabs dd ncFE __builtin_fabsf ff ncFE",
    "__builtin_fabsl LdLd ncFE __builtin_fabsf128 LLdLLd ncFE __builtin_fabsf16 hh ncF",
    "__builtin_fmod ddd Fne __builtin_fmodf fff Fne __builtin_fmodf16 hhh Fne __builtin_fmodl",
    "LdLdLd Fne __builtin_fmodf128 LLdLLdLLd Fne __builtin_frexp ddi* Fn __builtin_frexpf ffi* Fn",
    "__builtin_frexpl LdLdi* Fn __builtin_frexpf128 LLdLLdi* Fn __builtin_frexpf16 hhi* Fn",
    "__builtin_huge_val d ncE __builtin_huge_valf f ncE __builtin_huge_vall Ld ncE",
    "__builtin_huge_valf16 x ncE __builtin_huge_valf128 LLd ncE __builtin_inf d ncE",
    "__builtin_inff f ncE __builtin_infl Ld ncE __builtin_inff16 x ncE __builtin_inff128 LLd ncE",
    "__builtin_labs LiLi Fnc __builtin_llabs LLiLLi Fnc __builtin_ldexp ddi Fne __builtin_ldexpf",
    "ffi Fne __builtin_ldexpl LdLdi Fne __builtin_ldexpf128 LLdLLdi Fne __builtin_ldexpf16 hhi",
    "Fne __builtin_modf ddd* Fn __builtin_modff fff* Fn __builtin_modfl LdLdLd* Fn",
    "__builtin_modff128 LLdLLdLLd* Fn __builtin_nan dcC* FncE __builtin_nanf fcC* FncE",
    "__builtin_nanl LdcC* FncE __builtin_nanf16 xcC* FncE __builtin_nanf128 LLdcC* FncE",
    "__builtin_nans dcC* FncE __builtin_nansf fcC* FncE __builtin_nansl LdcC* FncE",
    "__builtin_nansf16 xcC* FncE __builtin_nansf128 LLdcC* FncE __builtin_powi ddi Fnc",
    "__builtin_powif ffi Fnc __builtin_powil LdLdi Fnc __builtin_pow ddd Fne __builtin_powf fff",
    "Fne __builtin_powf16 hhh Fne __builtin_powl LdLdLd Fne __builtin_powf128 LLdLLdLLd Fne",
    "__builtin_acos dd Fne __builtin_acosf ff Fne __builtin_acosl LdLd Fne __builtin_acosf128",
    "LLdLLd Fne __builtin_acosh dd Fne __builtin_acoshf ff Fne __builtin_acoshl LdLd Fne",
    "__builtin_acoshf128 LLdLLd Fne __builtin_asin dd Fne __builtin_asinf ff Fne __builtin_asinl",
    "LdLd Fne __builtin_asinf128 LLdLLd Fne __builtin_asinh dd Fne __builtin_asinhf ff Fne",
    "__builtin_asinhl LdLd Fne __builtin_asinhf128 LLdLLd Fne __builtin_atan dd Fne",
    "__builtin_atanf ff Fne __builtin_atanl LdLd Fne __builtin_atanf128 LLdLLd Fne",
    "__builtin_atanh dd Fne __builtin_atanhf ff Fne __builtin_atanhl LdLd Fne __builtin_atanhf128",
    "LLdLLd Fne __builtin_cbrt dd Fnc __builtin_cbrtf ff Fnc __builtin_cbrtl LdLd Fnc",
    "__builtin_cbrtf128 LLdLLd Fnc __builtin_ceil dd Fnc __builtin_ceilf ff Fnc __builtin_ceill",
    "LdLd Fnc __builtin_ceilf128 LLdLLd Fnc __builtin_ceilf16 hh Fnc __builtin_cos dd Fne",
    "__builtin_cosf ff Fne __builtin_cosl LdLd Fne __builtin_cosf128 LLdLLd Fne __builtin_cosf16",
    "hh Fne __builtin_cosh dd Fne __builtin_coshf ff Fne __builtin_coshl LdLd Fne",
    "__builtin_coshf128 LLdLLd Fne __builtin_erf dd Fne __builtin_erff ff Fne __builtin_erfl LdLd",
    "Fne __builtin_erff128 LLdLLd Fne __builtin_erfc dd Fne __builtin_erfcf ff Fne",
    "__builtin_erfcl LdLd Fne __builtin_erfcf128 LLdLLd Fne __builtin_exp dd Fne __builtin_expf",
    "ff Fne __builtin_expl LdLd Fne __builtin_expf128 LLdLLd Fne __builtin_expf16 hh Fne",
    "__builtin_exp2 dd Fne __builtin_exp2f ff Fne __builtin_exp2l LdLd Fne __builtin_exp2f128",
    "LLdLLd Fne __builtin_exp2f16 hh Fne __builtin_exp10 dd Fne __builtin_exp10f ff Fne",
    "__builtin_exp10l LdLd Fne __builtin_exp10f128 LLdLLd Fne __builtin_exp10f16 hh Fne",
    "__builtin_expm1 dd Fne __builtin_expm1f ff Fne __builtin_expm1l LdLd Fne __builtin_expm1f128",
    "LLdLLd Fne __builtin_floor dd Fnc __builtin_floorf ff Fnc __builtin_floorl LdLd Fnc",
    "__builtin_floorf128 LLdLLd Fnc __builtin_floorf16 hh Fnc __builtin_lgamma dd Fn",
    "__builtin_lgammaf ff Fn __builtin_lgammal LdLd Fn __builtin_lgammaf128 LLdLLd Fn",
    "__builtin_log dd Fne __builtin_logf ff Fne __builtin_logl LdLd Fne __builtin_logf128 LLdLLd",
    "Fne __builtin_logf16 hh Fne __builtin_log10 dd Fne __builtin_log10f ff Fne __builtin_log10l",
    "LdLd Fne __builtin_log10f128 LLdLLd Fne __builtin_log10f16 hh Fne __builtin_log1p dd Fne",
    "__builtin_log1pf ff Fne __builtin_log1pl LdLd Fne __builtin_log1pf128 LLdLLd Fne",
    "__builtin_log2 dd Fne __builtin_log2f ff Fne __builtin_log2l LdLd Fne __builtin_log2f128",
    "LLdLLd Fne __builtin_log2f16 hh Fne __builtin_logb dd Fne __builtin_logbf ff Fne",
    "__builtin_logbl LdLd Fne __builtin_logbf128 LLdLLd Fne __builtin_nearbyint dd Fnc",
    "__builtin_nearbyintf ff Fnc __builtin_nearbyintl LdLd Fnc __builtin_nearbyintf128 LLdLLd Fnc",
    "__builtin_rint dd Fnc __builtin_rintf ff Fnc __builtin_rintl LdLd Fnc __builtin_rintf128",
    "LLdLLd Fnc __builtin_rintf16 hh Fnc __builtin_round dd Fnc __builtin_roundf ff Fnc",
    "__builtin_roundl LdLd Fnc __builtin_roundf128 LLdLLd Fnc __builtin_roundf16 hh Fnc",
    "__builtin_roundeven dd Fnc __builtin_roundevenf ff Fnc __builtin_roundevenl LdLd Fnc",
    "__builtin_roundevenf128 LLdLLd Fnc __builtin_roundevenf16 hh Fnc __builtin_sin dd Fne",
    "__builtin_sinf ff Fne __builtin_sinl LdLd Fne __builtin_sinf128 LLdLLd Fne __builtin_sinf16",
    "hh Fne __builtin_sinh dd Fne __builtin_sinhf ff Fne __builtin_sinhl LdLd Fne",
    "__builtin_sinhf128 LLdLLd Fne __builtin_sqrt dd Fne __builtin_sqrtf ff Fne __builtin_sqrtl",
    "LdLd Fne __builtin_sqrtf128 LLdLLd Fne __builtin_sqrtf16 hh Fne __builtin_tan dd Fne",
    "__builtin_tanf ff Fne __builtin_tanl LdLd Fne __builtin_tanf128 LLdLLd Fne __builtin_tanh dd",
    "Fne __builtin_tanhf ff Fne __builtin_tanhl LdLd Fne __builtin_tanhf128 LLdLLd Fne",
    "__builtin_tgamma dd Fne __builtin_tgammaf ff Fne __builtin_tgammal LdLd Fne",
    "__builtin_tgammaf128 LLdLLd Fne __builtin_trunc dd Fnc __builtin_truncf ff Fnc",
    "__builtin_truncl LdLd Fnc __builtin_truncf128 LLdLLd Fnc __builtin_truncf16 hh Fnc",
    "__builtin_fdim ddd Fne __builtin_fdimf fff Fne __builtin_fdiml LdLdLd Fne __builtin_fdimf128",
    "LLdLLdLLd Fne __builtin_fma dddd Fne __builtin_fmaf ffff Fne __builtin_fmal LdLdLdLd Fne",
    "__builtin_fmaf128 LLdLLdLLdLLd Fne __builtin_fmaf16 hhhh Fne __builtin_fmax ddd FncE",
    "__builtin_fmaxf fff FncE __builtin_fmaxl LdLdLd FncE __builtin_fmaxf128 LLdLLdLLd FncE",
    "__builtin_fmaxf16 hhh FncE __builtin_fmin ddd FncE __builtin_fminf fff FncE __builtin_fminl",
    "LdLdLd FncE __builtin_fminf128 LLdLLdLLd FncE __builtin_fminf16 hhh FncE __builtin_hypot ddd",
    "Fne __builtin_hypotf fff Fne __builtin_hypotl LdLdLd Fne __builtin_hypotf128 LLdLLdLLd Fne",
    "__builtin_ilogb id Fne __builtin_ilogbf if Fne __builtin_ilogbl iLd Fne __builtin_ilogbf128",
    "iLLd Fne __builtin_llrint LLid Fne __builtin_llrintf LLif Fne __builtin_llrintl LLiLd Fne",
    "__builtin_llrintf128 LLiLLd Fne __builtin_llround LLid Fne __builtin_llroundf LLif Fne",
    "__builtin_llroundl LLiLd Fne __builtin_llroundf128 LLiLLd Fne __builtin_lrint Lid Fne",
    "__builtin_lrintf Lif Fne __builtin_lrintl LiLd Fne __builtin_lrintf128 LiLLd Fne",
    "__builtin_lround Lid Fne __builtin_lroundf Lif Fne __builtin_lroundl LiLd Fne",
    "__builtin_lroundf128 LiLLd Fne __builtin_nextafter ddd Fne __builtin_nextafterf fff Fne",
    "__builtin_nextafterl LdLdLd Fne __builtin_nextafterf128 LLdLLdLLd Fne __builtin_remainder",
    "ddd Fne __builtin_remainderf fff Fne __builtin_remainderl LdLdLd Fne __builtin_remainderf128",
    "LLdLLdLLd Fne __builtin_remquo dddi* Fn __builtin_remquof fffi* Fn __builtin_remquol",
    "LdLdLdi* Fn __builtin_remquof128 LLdLLdLLdi* Fn __builtin_scalbln ddLi Fne",
    "__builtin_scalblnf ffLi Fne __builtin_scalblnl LdLdLi Fne __builtin_scalblnf128 LLdLLdLi Fne",
    "__builtin_scalbn ddi Fne __builtin_scalbnf ffi Fne __builtin_scalbnl LdLdi Fne",
    "__builtin_scalbnf128 LLdLLdi Fne __builtin_nexttoward ddLd Fne __builtin_nexttowardf ffLd",
    "Fne __builtin_nexttowardl LdLdLd Fne __builtin_nexttowardf128 LLdLLdLLd Fne __builtin_cabs",
    "dXd Fne __builtin_cabsf fXf Fne __builtin_cabsl LdXLd Fne __builtin_cacos XdXd Fne",
    "__builtin_cacosf XfXf Fne __builtin_cacosl XLdXLd Fne __builtin_cacosh XdXd Fne",
    "__builtin_cacoshf XfXf Fne __builtin_cacoshl XLdXLd Fne __builtin_carg dXd Fne",
    "__builtin_cargf fXf Fne __builtin_cargl LdXLd Fne __builtin_casin XdXd Fne __builtin_casinf",
    "XfXf Fne __builtin_casinl XLdXLd Fne __builtin_casinh XdXd Fne __builtin_casinhf XfXf Fne",
    "__builtin_casinhl XLdXLd Fne __builtin_catan XdXd Fne __builtin_catanf XfXf Fne",
    "__builtin_catanl XLdXLd Fne __builtin_catanh XdXd Fne __builtin_catanhf XfXf Fne",
    "__builtin_catanhl XLdXLd Fne __builtin_ccos XdXd Fne __builtin_ccosf XfXf Fne",
    "__builtin_ccosl XLdXLd Fne __builtin_ccosh XdXd Fne __builtin_ccoshf XfXf Fne",
    "__builtin_ccoshl XLdXLd Fne __builtin_cexp XdXd Fne __builtin_cexpf XfXf Fne __builtin_cexpl",
    "XLdXLd Fne __builtin_cimag dXd Fnc __builtin_cimagf fXf Fnc __builtin_cimagl LdXLd Fnc",
    "__builtin_conj XdXd Fnc __builtin_conjf XfXf Fnc __builtin_conjl XLdXLd Fnc __builtin_clog",
    "XdXd Fne __builtin_clogf XfXf Fne __builtin_clogl XLdXLd Fne __builtin_cproj XdXd Fnc",
    "__builtin_cprojf XfXf Fnc __builtin_cprojl XLdXLd Fnc __builtin_cpow XdXdXd Fne",
    "__builtin_cpowf XfXfXf Fne __builtin_cpowl XLdXLdXLd Fne __builtin_creal dXd Fnc",
    "__builtin_crealf fXf Fnc __builtin_creall LdXLd Fnc __builtin_csin XdXd Fne __builtin_csinf",
    "XfXf Fne __builtin_csinl XLdXLd Fne __builtin_csinh XdXd Fne __builtin_csinhf XfXf Fne",
    "__builtin_csinhl XLdXLd Fne __builtin_csqrt XdXd Fne __builtin_csqrtf XfXf Fne",
    "__builtin_csqrtl XLdXLd Fne __builtin_ctan XdXd Fne __builtin_ctanf XfXf Fne __builtin_ctanl",
    "XLdXLd Fne __builtin_ctanh XdXd Fne __builtin_ctanhf XfXf Fne __builtin_ctanhl XLdXLd Fne",
    "__builtin_complex v. nctE __builtin_isgreater i. Fnct __builtin_isgreaterequal i. Fnct",
    "__builtin_isless i. Fnct __builtin_islessequal i. Fnct __builtin_islessgreater i. Fnct",
    "__builtin_isunordered i. Fnct __builtin_fpclassify iiiiii. FnctE __builtin_isfinite i. FnctE",
    "__builtin_isinf i. FnctE __builtin_isinf_sign i. FnctE __builtin_isnan i. FnctE",
    "__builtin_isnormal i. FnctE __builtin_issubnormal i. FnctE __builtin_iszero i. FnctE",
    "__builtin_issignaling i. FnctE __builtin_isfpclass i. nctE __builtin_signbit i. Fnct",
    "__builtin_signbitf if Fnc __builtin_signbitl iLd Fnc __builtin_canonicalize dd nc",
    "__builtin_canonicalizef ff nc __builtin_canonicalizef16 hh nc __builtin_canonicalizel LdLd",
    "nc __builtin_clzs iUs ncE __builtin_clz iUi ncE __builtin_clzl iULi ncE __builtin_clzll",
    "iULLi ncE __builtin_ctzs iUs ncE __builtin_ctz iUi ncE __builtin_ctzl iULi ncE",
    "__builtin_ctzll iULLi ncE __builtin_ffs ii FncE __builtin_ffsl iLi FncE __builtin_ffsll iLLi",
    "FncE __builtin_parity iUi ncE __builtin_parityl iULi ncE __builtin_parityll iULLi ncE",
    "__builtin_popcount iUi ncE __builtin_popcountl iULi ncE __builtin_popcountll iULLi ncE",
    "__builtin_clrsb ii ncE __builtin_clrsbl iLi ncE __builtin_clrsbll iLLi ncE __builtin_bswap16",
    "UsUs ncE __builtin_bswap32 UZiUZi ncE __builtin_bswap64 UWiUWi ncE __builtin_bitreverse8",
    "UcUc ncE __builtin_bitreverse16 UsUs ncE __builtin_bitreverse32 UZiUZi ncE",
    "__builtin_bitreverse64 UWiUWi ncE __builtin_rotateleft8 UcUcUc ncE __builtin_rotateleft16",
    "UsUsUs ncE __builtin_rotateleft32 UZiUZiUZi ncE __builtin_rotateleft64 UWiUWiUWi ncE",
    "__builtin_rotateright8 UcUcUc ncE __builtin_rotateright16 UsUsUs ncE __builtin_rotateright32",
    "UZiUZiUZi ncE __builtin_rotateright64 UWiUWiUWi ncE __builtin_flt_rounds i n",
    "__builtin_set_flt_rounds vi n __builtin_calloc v*zz nF __builtin_constant_p i. nctuE",
    "__builtin_classify_type i. nctuE __builtin___CFStringMakeConstantString FC*cC* ncE",
    "__builtin___NSStringMakeConstantString FC*cC* ncE __builtin_va_start vA. nt __builtin_va_end",
    "vA n __builtin_va_copy vAA n __builtin_stdarg_start vA. nt __builtin_assume_aligned v*vC*z.",
    "nctE __builtin_bcmp ivC*vC*z FnE __builtin_bcopy vvC*v*z nF __builtin_bzero vv*z nF",
    "__builtin_free vv* nF __builtin_malloc v*z nF __builtin_memchr v*vC*iz nFE __builtin_memcmp",
    "ivC*vC*z nFE __builtin_memcpy v*v*vC*z nFE __builtin_memcpy_inline vv*vC*Iz n",
    "__builtin_memmove v*v*vC*z nFE __builtin_mempcpy v*v*vC*z nF __builtin_memset v*v*iz nF",
    "__builtin_memset_inline vv*iIz n __builtin_printf icC*. Fp:0: __builtin_stpcpy c*c*cC* nF",
    "__builtin_stpncpy c*c*cC*z nF __builtin_strcasecmp icC*cC* nF __builtin_strcat c*c*cC* nF",
    "__builtin_strchr c*cC*i nFE __builtin_strcmp icC*cC* nFE __builtin_strcpy c*c*cC* nF",
    "__builtin_strcspn zcC*cC* nF __builtin_strdup c*cC* nF __builtin_strlen zcC* nFE",
    "__builtin_strncasecmp icC*cC*z nF __builtin_strncat c*c*cC*z nF __builtin_strncmp icC*cC*z",
    "nFE __builtin_strncpy c*c*cC*z nF __builtin_strndup c*cC*z nF __builtin_strpbrk c*cC*cC* nF",
    "__builtin_strrchr c*cC*i nF __builtin_strspn zcC*cC* nF __builtin_strstr c*cC*cC* nF",
    "__builtin_wcschr w*wC*w nE __builtin_wcscmp iwC*wC* nE __builtin_wcslen zwC* nE",
    "__builtin_wcsncmp iwC*wC*z nE __builtin_wmemchr w*wC*wz nE __builtin_wmemcmp iwC*wC*z nE",
    "__builtin_wmemcpy w*w*wC*z nE __builtin_wmemmove w*w*wC*z nE __builtin_realloc v*v*z nF",
    "__builtin_return_address v*IUi n __builtin_extract_return_addr v*v* n",
    "__builtin_frame_address v*IUi n __builtin___clear_cache vv*v* n __builtin_setjmp iv** j",
    "__builtin_longjmp vv**i r __builtin_unwind_init v - __builtin_eh_return_data_regno iIi ncE",
    "__builtin_fprintf iP*cC*. Fp:1: __builtin_snprintf ic*zcC*. nFp:2: __builtin_sprintf ic*cC*.",
    "nFP:1: __builtin_vsnprintf ic*zcC*a nFP:2: __builtin_vsprintf ic*cC*a nFP:1:",
    "__builtin_vprintf icC*a FP:0: __builtin_vfprintf iP*cC*a FP:1: __builtin_thread_pointer v*",
    "nc __builtin_launder v*v* ntE __builtin_eh_return vzv* r __builtin_frob_return_addr v*v* n",
    "__builtin_dwarf_cfa v* n __builtin_init_dwarf_reg_size_table vv* n __builtin_dwarf_sp_column",
    "Ui n __builtin_extend_pointer ULLiv* n __builtin_object_size zvC*i nuE",
    "__builtin_dynamic_object_size zvC*i nuE __builtin___memcpy_chk v*v*vC*zz nF",
    "__builtin___memccpy_chk v*v*vC*izz nF __builtin___memmove_chk v*v*vC*zz nF",
    "__builtin___mempcpy_chk v*v*vC*zz nF __builtin___memset_chk v*v*izz nF",
    "__builtin___stpcpy_chk c*c*cC*z nF __builtin___strcat_chk c*c*cC*z nF __builtin___strcpy_chk",
    "c*c*cC*z nF __builtin___strlcat_chk zc*cC*zz nF __builtin___strlcpy_chk zc*cC*zz nF",
    "__builtin___strncat_chk c*c*cC*zz nF __builtin___strncpy_chk c*c*cC*zz nF",
    "__builtin___stpncpy_chk c*c*cC*zz nF __builtin___snprintf_chk ic*zizcC*. Fp:4:",
    "__builtin___sprintf_chk ic*izcC*. Fp:3: __builtin___vsnprintf_chk ic*zizcC*a FP:4:",
    "__builtin___vsprintf_chk ic*izcC*a FP:3: __builtin___fprintf_chk iP*icC*. Fp:2:",
    "__builtin___printf_chk iicC*. Fp:1: __builtin___vfprintf_chk iP*icC*a FP:2:",
    "__builtin___vprintf_chk iicC*a FP:1: __builtin_unpredictable LiLi nc __builtin_expect LiLiLi",
    "ncE __builtin_expect_with_probability LiLiLid ncE __builtin_prefetch vvC*. nc",
    "__builtin_readcyclecounter ULLi n __builtin_trap v nr __builtin_debugtrap v n",
    "__builtin_unreachable v nr __builtin_shufflevector v. nct __builtin_convertvector v. nct",
    "__builtin_vectorelements v. nct __builtin_alloca v*z Fn __builtin_alloca_uninitialized v*z",
    "Fn __builtin_alloca_with_align v*zIz Fn __builtin_alloca_with_align_uninitialized v*zIz Fn",
    "__builtin_call_with_static_chain v. nt __builtin_nondeterministic_value v. nt",
    "__builtin_elementwise_abs v. nct __builtin_elementwise_bitreverse v. nct",
    "__builtin_elementwise_max v. nct __builtin_elementwise_min v. nct __builtin_elementwise_ceil",
    "v. nct __builtin_elementwise_cos v. nct __builtin_elementwise_exp v. nct",
    "__builtin_elementwise_exp2 v. nct __builtin_elementwise_floor v. nct",
    "__builtin_elementwise_log v. nct __builtin_elementwise_log2 v. nct",
    "__builtin_elementwise_log10 v. nct __builtin_elementwise_pow v. nct",
    "__builtin_elementwise_roundeven v. nct __builtin_elementwise_round v. nct",
    "__builtin_elementwise_rint v. nct __builtin_elementwise_nearbyint v. nct",
    "__builtin_elementwise_sin v. nct __builtin_elementwise_sqrt v. nct",
    "__builtin_elementwise_trunc v. nct __builtin_elementwise_canonicalize v. nct",
    "__builtin_elementwise_copysign v. nct __builtin_elementwise_fma v. nct",
    "__builtin_elementwise_add_sat v. nct __builtin_elementwise_sub_sat v. nct",
    "__builtin_reduce_max v. nct __builtin_reduce_min v. nct __builtin_reduce_xor v. nct",
    "__builtin_reduce_or v. nct __builtin_reduce_and v. nct __builtin_reduce_add v. nct",
    "__builtin_reduce_mul v. nct __builtin_matrix_transpose v. nFt",
    "__builtin_matrix_column_major_load v. nFt __builtin_matrix_column_major_store v. nFt",
    "__sync_fetch_and_add v. t __sync_fetch_and_add_1 ccD*c. nt __sync_fetch_and_add_2 ssD*s. nt",
    "__sync_fetch_and_add_4 iiD*i. nt __sync_fetch_and_add_8 LLiLLiD*LLi. nt",
    "__sync_fetch_and_add_16 LLLiLLLiD*LLLi. nt __sync_fetch_and_sub v. t __sync_fetch_and_sub_1",
    "ccD*c. nt __sync_fetch_and_sub_2 ssD*s. nt __sync_fetch_and_sub_4 iiD*i. nt",
    "__sync_fetch_and_sub_8 LLiLLiD*LLi. nt __sync_fetch_and_sub_16 LLLiLLLiD*LLLi. nt",
    "__sync_fetch_and_or v. t __sync_fetch_and_or_1 ccD*c. nt __sync_fetch_and_or_2 ssD*s. nt",
    "__sync_fetch_and_or_4 iiD*i. nt __sync_fetch_and_or_8 LLiLLiD*LLi. nt __sync_fetch_and_or_16",
    "LLLiLLLiD*LLLi. nt __sync_fetch_and_and v. t __sync_fetch_and_and_1 ccD*c. nt",
    "__sync_fetch_and_and_2 ssD*s. nt __sync_fetch_and_and_4 iiD*i. nt __sync_fetch_and_and_8",
    "LLiLLiD*LLi. nt __sync_fetch_and_and_16 LLLiLLLiD*LLLi. nt __sync_fetch_and_xor v. t",
    "__sync_fetch_and_xor_1 ccD*c. nt __sync_fetch_and_xor_2 ssD*s. nt __sync_fetch_and_xor_4",
    "iiD*i. nt __sync_fetch_and_xor_8 LLiLLiD*LLi. nt __sync_fetch_and_xor_16 LLLiLLLiD*LLLi. nt",
    "__sync_fetch_and_nand v. t __sync_fetch_and_nand_1 ccD*c. nt __sync_fetch_and_nand_2 ssD*s.",
    "nt __sync_fetch_and_nand_4 iiD*i. nt __sync_fetch_and_nand_8 LLiLLiD*LLi. nt",
    "__sync_fetch_and_nand_16 LLLiLLLiD*LLLi. nt __sync_add_and_fetch v. t __sync_add_and_fetch_1",
    "ccD*c. nt __sync_add_and_fetch_2 ssD*s. nt __sync_add_and_fetch_4 iiD*i. nt",
    "__sync_add_and_fetch_8 LLiLLiD*LLi. nt __sync_add_and_fetch_16 LLLiLLLiD*LLLi. nt",
    "__sync_sub_and_fetch v. t __sync_sub_and_fetch_1 ccD*c. nt __sync_sub_and_fetch_2 ssD*s. nt",
    "__sync_sub_and_fetch_4 iiD*i. nt __sync_sub_and_fetch_8 LLiLLiD*LLi. nt",
    "__sync_sub_and_fetch_16 LLLiLLLiD*LLLi. nt __sync_or_and_fetch v. t __sync_or_and_fetch_1",
    "ccD*c. nt __sync_or_and_fetch_2 ssD*s. nt __sync_or_and_fetch_4 iiD*i. nt",
    "__sync_or_and_fetch_8 LLiLLiD*LLi. nt __sync_or_and_fetch_16 LLLiLLLiD*LLLi. nt",
    "__sync_and_and_fetch v. t __sync_and_and_fetch_1 ccD*c. nt __sync_and_and_fetch_2 ssD*s. nt",
    "__sync_and_and_fetch_4 iiD*i. nt __sync_and_and_fetch_8 LLiLLiD*LLi. nt",
    "__sync_and_and_fetch_16 LLLiLLLiD*LLLi. nt __sync_xor_and_fetch v. t __sync_xor_and_fetch_1",
    "ccD*c. nt __sync_xor_and_fetch_2 ssD*s. nt __sync_xor_and_fetch_4 iiD*i. nt",
    "__sync_xor_and_fetch_8 LLiLLiD*LLi. nt __sync_xor_and_fetch_16 LLLiLLLiD*LLLi. nt",
    "__sync_nand_and_fetch v. t __sync_nand_and_fetch_1 ccD*c. nt __sync_nand_and_fetch_2 ssD*s.",
    "nt __sync_nand_and_fetch_4 iiD*i. nt __sync_nand_and_fetch_8 LLiLLiD*LLi. nt",
    "__sync_nand_and_fetch_16 LLLiLLLiD*LLLi. nt __sync_bool_compare_and_swap v. t",
    "__sync_bool_compare_and_swap_1 bcD*cc. nt __sync_bool_compare_and_swap_2 bsD*ss. nt",
    "__sync_bool_compare_and_swap_4 biD*ii. nt __sync_bool_compare_and_swap_8 bLLiD*LLiLLi. nt",
    "__sync_bool_compare_and_swap_16 bLLLiD*LLLiLLLi. nt __sync_val_compare_and_swap v. t",
    "__sync_val_compare_and_swap_1 ccD*cc. nt __sync_val_compare_and_swap_2 ssD*ss. nt",
    "__sync_val_compare_and_swap_4 iiD*ii. nt __sync_val_compare_and_swap_8 LLiLLiD*LLiLLi. nt",
    "__sync_val_compare_and_swap_16 LLLiLLLiD*LLLiLLLi. nt __sync_lock_test_and_set v. t",
    "__sync_lock_test_and_set_1 ccD*c. nt __sync_lock_test_and_set_2 ssD*s. nt",
    "__sync_lock_test_and_set_4 iiD*i. nt __sync_lock_test_and_set_8 LLiLLiD*LLi. nt",
    "__sync_lock_test_and_set_16 LLLiLLLiD*LLLi. nt __sync_lock_release v. t",
    "__sync_lock_release_1 vcD*. nt __sync_lock_release_2 vsD*. nt __sync_lock_release_4 viD*. nt",
    "__sync_lock_release_8 vLLiD*. nt __sync_lock_release_16 vLLLiD*. nt __sync_swap v. t",
    "__sync_swap_1 ccD*c. nt __sync_swap_2 ssD*s. nt __sync_swap_4 iiD*i. nt __sync_swap_8",
    "LLiLLiD*LLi. nt __sync_swap_16 LLLiLLLiD*LLLi. nt __sync_synchronize v n",
    "__warn_memset_zero_len v nU __sync_fetch_and_min iiD*i n __sync_fetch_and_max iiD*i n",
    "__sync_fetch_and_umin UiUiD*Ui n __sync_fetch_and_umax UiUiD*Ui n __builtin_abort v Fnr",
    "__builtin_index c*cC*i Fn __builtin_rindex c*cC*i Fn va_start vA. fn va_end vA fn va_copy",
    "vAA fn abort v fr calloc v*zz f exit vi fr _Exit vi fr malloc v*z f realloc v*v*z f free vv*",
    "f strtod dcC*c** f strtof fcC*c** f strtold LdcC*c** f strtol LicC*c**i f strtoll LLicC*c**i",
    "f strtoul ULicC*c**i f strtoull ULLicC*c**i f aligned_alloc v*zz f memcpy v*v*vC*z fE memcmp",
    "ivC*vC*z fE memmove v*v*vC*z fE strcpy c*c*cC* f strncpy c*c*cC*z f strcmp icC*cC* fE",
    "strncmp icC*cC*z fE strcat c*c*cC* f strncat c*c*cC*z f strxfrm zc*cC*z f memchr v*vC*iz fE",
    "strchr c*cC*i fE strcspn zcC*cC* f strpbrk c*cC*cC* f strrchr c*cC*i f strspn zcC*cC* f",
    "strstr c*cC*cC* f strtok c*c*cC* f memset v*v*iz f strerror c*i f strlen zcC* fE printf",
    "icC*. fp:0: fprintf iP*cC*. fp:1: snprintf ic*zcC*. fp:2: sprintf ic*cC*. fp:1: vprintf",
    "icC*a fP:0: vfprintf iP*cC*a fP:1: vsnprintf ic*zcC*a fP:2: vsprintf ic*cC*a fP:1: scanf",
    "icC*R. fs:0: fscanf iP*RcC*R. fs:1: sscanf icC*RcC*R. fs:1: vscanf icC*Ra fS:0: vfscanf",
    "iP*RcC*Ra fS:1: vsscanf icC*RcC*Ra fS:1: fopen P*cC*cC* f fread zv*zzP* f fwrite zvC*zzP* f",
    "isalnum ii fnU isalpha ii fnU isblank ii fnU iscntrl ii fnU isdigit ii fnU isgraph ii fnU",
    "islower ii fnU isprint ii fnU ispunct ii fnU isspace ii fnU isupper ii fnU isxdigit ii fnU",
    "tolower ii fnU toupper ii fnU wcschr w*wC*w fE wcscmp iwC*wC* fE wcslen zwC* fE wcsncmp",
    "iwC*wC*z fE wmemchr w*wC*wz fE wmemcmp iwC*wC*z fE wmemcpy w*w*wC*z fE wmemmove w*w*wC*z fE",
    "setjmp iJ fjT longjmp vJi frT vfork p fjT _setjmp iJ fjT __sigsetjmp iSJi fjT sigsetjmp iSJi",
    "fjT savectx iJ fjT getcontext iK* fjT _Block_object_assign vv*vC*iC f _Block_object_dispose",
    "vvC*iC f atan2 ddd fne atan2f fff fne atan2l LdLdLd fne abs ii fnc labs LiLi fnc llabs",
    "LLiLLi fnc copysign ddd fnc copysignf fff fnc copysignl LdLdLd fnc fabs dd fnc fabsf ff fnc",
    "fabsl LdLd fnc fmod ddd fne fmodf fff fne fmodl LdLdLd fne frexp ddi* fn frexpf ffi* fn",
    "frexpl LdLdi* fn ldexp ddi fne ldexpf ffi fne ldexpl LdLdi fne modf ddd* fn modff fff* fn",
    "modfl LdLdLd* fn nan dcC* fnc nanf fcC* fnc nanl LdcC* fnc pow ddd fne powf fff fne powl",
    "LdLdLd fne acos dd fne acosf ff fne acosl LdLd fne acosh dd fne acoshf ff fne acoshl LdLd",
    "fne asin dd fne asinf ff fne asinl LdLd fne asinh dd fne asinhf ff fne asinhl LdLd fne atan",
    "dd fne atanf ff fne atanl LdLd fne atanh dd fne atanhf ff fne atanhl LdLd fne cbrt dd fnc",
    "cbrtf ff fnc cbrtl LdLd fnc ceil dd fnc ceilf ff fnc ceill LdLd fnc cos dd fne cosf ff fne",
    "cosl LdLd fne cosh dd fne coshf ff fne coshl LdLd fne erf dd fne erff ff fne erfl LdLd fne",
    "erfc dd fne erfcf ff fne erfcl LdLd fne exp dd fne expf ff fne expl LdLd fne exp2 dd fne",
    "exp2f ff fne exp2l LdLd fne expm1 dd fne expm1f ff fne expm1l LdLd fne floor dd fnc floorf",
    "ff fnc floorl LdLd fnc lgamma dd fn lgammaf ff fn lgammal LdLd fn log dd fne logf ff fne",
    "logl LdLd fne log10 dd fne log10f ff fne log10l LdLd fne log1p dd fne log1pf ff fne log1pl",
    "LdLd fne log2 dd fne log2f ff fne log2l LdLd fne logb dd fne logbf ff fne logbl LdLd fne",
    "nearbyint dd fnc nearbyintf ff fnc nearbyintl LdLd fnc rint dd fnc rintf ff fnc rintl LdLd",
    "fnc round dd fnc roundf ff fnc roundl LdLd fnc roundeven dd fnc roundevenf ff fnc roundevenl",
    "LdLd fnc sin dd fne sinf ff fne sinl LdLd fne sinh dd fne sinhf ff fne sinhl LdLd fne sqrt",
    "dd fne sqrtf ff fne sqrtl LdLd fne tan dd fne tanf ff fne tanl LdLd fne tanh dd fne tanhf ff",
    "fne tanhl LdLd fne tgamma dd fne tgammaf ff fne tgammal LdLd fne trunc dd fnc truncf ff fnc",
    "truncl LdLd fnc fdim ddd fne fdimf fff fne fdiml LdLdLd fne fma dddd fne fmaf ffff fne fmal",
    "LdLdLdLd fne fmax ddd fnc fmaxf fff fnc fmaxl LdLdLd fnc fmin ddd fnc fminf fff fnc fminl",
    "LdLdLd fnc hypot ddd fne hypotf fff fne hypotl LdLdLd fne ilogb id fne ilogbf if fne ilogbl",
    "iLd fne llrint LLid fne llrintf LLif fne llrintl LLiLd fne llround LLid fne llroundf LLif",
    "fne llroundl LLiLd fne lrint Lid fne lrintf Lif fne lrintl LiLd fne lround Lid fne lroundf",
    "Lif fne lroundl LiLd fne nextafter ddd fne nextafterf fff fne nextafterl LdLdLd fne",
    "remainder ddd fne remainderf fff fne remainderl LdLdLd fne remquo dddi* fn remquof fffi* fn",
    "remquol LdLdLdi* fn scalbln ddLi fne scalblnf ffLi fne scalblnl LdLdLi fne scalbn ddi fne",
    "scalbnf ffi fne scalbnl LdLdi fne nexttoward ddLd fne nexttowardf ffLd fne nexttowardl",
    "LdLdLd fne cabs dXd fne cabsf fXf fne cabsl LdXLd fne cacos XdXd fne cacosf XfXf fne cacosl",
    "XLdXLd fne cacosh XdXd fne cacoshf XfXf fne cacoshl XLdXLd fne carg dXd fne cargf fXf fne",
    "cargl LdXLd fne casin XdXd fne casinf XfXf fne casinl XLdXLd fne casinh XdXd fne casinhf",
    "XfXf fne casinhl XLdXLd fne catan XdXd fne catanf XfXf fne catanl XLdXLd fne catanh XdXd fne",
    "catanhf XfXf fne catanhl XLdXLd fne ccos XdXd fne ccosf XfXf fne ccosl XLdXLd fne ccosh XdXd",
    "fne ccoshf XfXf fne ccoshl XLdXLd fne cexp XdXd fne cexpf XfXf fne cexpl XLdXLd fne cimag",
    "dXd fnc cimagf fXf fnc cimagl LdXLd fnc conj XdXd fnc conjf XfXf fnc conjl XLdXLd fnc clog",
    "XdXd fne clogf XfXf fne clogl XLdXLd fne cproj XdXd fnc cprojf XfXf fnc cprojl XLdXLd fnc",
    "cpow XdXdXd fne cpowf XfXfXf fne cpowl XLdXLdXLd fne creal dXd fnc crealf fXf fnc creall",
    "LdXLd fnc csin XdXd fne csinf XfXf fne csinl XLdXLd fne csinh XdXd fne csinhf XfXf fne",
    "csinhl XLdXLd fne csqrt XdXd fne csqrtf XfXf fne csqrtl XLdXLd fne ctan XdXd fne ctanf XfXf",
    "fne ctanl XLdXLd fne ctanh XdXd fne ctanhf XfXf fne ctanhl XLdXLd fne __builtin_annotation",
    "v. tn __builtin_assume vb nE __builtin_assume_separate_storage vvCD*vCD* nE __builtin_addcb",
    "UcUcCUcCUcCUc* n __builtin_addcs UsUsCUsCUsCUs* n __builtin_addc UiUiCUiCUiCUi* n",
    "__builtin_addcl ULiULiCULiCULiCULi* n __builtin_addcll ULLiULLiCULLiCULLiCULLi* n",
    "__builtin_subcb UcUcCUcCUcCUc* n __builtin_subcs UsUsCUsCUsCUs* n __builtin_subc",
    "UiUiCUiCUiCUi* n __builtin_subcl ULiULiCULiCULiCULi* n __builtin_subcll",
    "ULLiULLiCULLiCULLiCULLi* n __builtin_add_overflow b. ntE __builtin_sub_overflow b. ntE",
    "__builtin_mul_overflow b. ntE __builtin_uadd_overflow bUiCUiCUi* nE __builtin_uaddl_overflow",
    "bULiCULiCULi* nE __builtin_uaddll_overflow bULLiCULLiCULLi* nE __builtin_usub_overflow",
    "bUiCUiCUi* nE __builtin_usubl_overflow bULiCULiCULi* nE __builtin_usubll_overflow",
    "bULLiCULLiCULLi* nE __builtin_umul_overflow bUiCUiCUi* nE __builtin_umull_overflow",
    "bULiCULiCULi* nE __builtin_umulll_overflow bULLiCULLiCULLi* nE __builtin_sadd_overflow",
    "bSiCSiCSi* nE __builtin_saddl_overflow bSLiCSLiCSLi* nE __builtin_saddll_overflow",
    "bSLLiCSLLiCSLLi* nE __builtin_ssub_overflow bSiCSiCSi* nE __builtin_ssubl_overflow",
    "bSLiCSLiCSLi* nE __builtin_ssubll_overflow bSLLiCSLLiCSLLi* nE __builtin_smul_overflow",
    "bSiCSiCSi* nE __builtin_smull_overflow bSLiCSLiCSLi* nE __builtin_smulll_overflow",
    "bSLLiCSLLiCSLLi* nE __builtin_addressof v*v& nctE __builtin_function_start v*v& nct",
    "__builtin_operator_new v*z tcE __builtin_operator_delete vv* tnE __builtin_char_memchr",
    "c*cC*iz nE __builtin_dump_struct v. t __builtin_preserve_access_index v. t",
    "__builtin_is_aligned bvC*z nctE __builtin_align_up v*vC*z nctE __builtin_align_down v*vC*z",
    "nctE __builtin___get_unsafe_stack_start v* Fn __builtin___get_unsafe_stack_bottom v* Fn",
    "__builtin___get_unsafe_stack_top v* Fn __builtin___get_unsafe_stack_ptr v* Fn",
    "__builtin_nontemporal_store v. t __builtin_nontemporal_load v. t",
    "__builtin_os_log_format_buffer_size zcC*. p:0:nutE __builtin_os_log_format v*v*cC*. p:0:nt",
    "__xray_customevent vcC*z - __xray_typedevent vzcC*z - __arithmetic_fence v. tE",
    "__c11_atomic_init v. t __c11_atomic_load v. t __c11_atomic_store v. t __c11_atomic_exchange",
    "v. t __c11_atomic_compare_exchange_strong v. t __c11_atomic_compare_exchange_weak v. t",
    "__c11_atomic_fetch_add v. t __c11_atomic_fetch_sub v. t __c11_atomic_fetch_and v. t",
    "__c11_atomic_fetch_or v. t __c11_atomic_fetch_xor v. t __c11_atomic_fetch_nand v. t",
    "__c11_atomic_fetch_max v. t __c11_atomic_fetch_min v. t __c11_atomic_thread_fence vi n",
    "__c11_atomic_signal_fence vi n __c11_atomic_is_lock_free bz nE __atomic_load v. t",
    "__atomic_load_n v. t __atomic_store v. t __atomic_store_n v. t __atomic_exchange v. t",
    "__atomic_exchange_n v. t __atomic_compare_exchange v. t __atomic_compare_exchange_n v. t",
    "__atomic_fetch_add v. t __atomic_fetch_sub v. t __atomic_fetch_and v. t __atomic_fetch_or v.",
    "t __atomic_fetch_xor v. t __atomic_fetch_nand v. t __atomic_add_fetch v. t",
    "__atomic_sub_fetch v. t __atomic_and_fetch v. t __atomic_or_fetch v. t __atomic_xor_fetch v.",
    "t __atomic_max_fetch v. t __atomic_min_fetch v. t __atomic_nand_fetch v. t",
    "__atomic_test_and_set bvD*i n __atomic_clear vvD*i n __atomic_thread_fence vi n",
    "__atomic_signal_fence vi n __atomic_always_lock_free bzvCD* nE __atomic_is_lock_free bzvCD*",
    "nE __opencl_atomic_init v. t __opencl_atomic_load v. t __opencl_atomic_store v. t",
    "__opencl_atomic_exchange v. t __opencl_atomic_compare_exchange_strong v. t",
    "__opencl_atomic_compare_exchange_weak v. t __opencl_atomic_fetch_and v. t",
    "__opencl_atomic_fetch_or v. t __opencl_atomic_fetch_xor v. t __opencl_atomic_fetch_add v. t",
    "__opencl_atomic_fetch_sub v. t __opencl_atomic_fetch_min v. t __opencl_atomic_fetch_max v. t",
    "__atomic_fetch_min v. t __atomic_fetch_max v. t __hip_atomic_load v. t __hip_atomic_store v.",
    "t __hip_atomic_compare_exchange_weak v. t __hip_atomic_compare_exchange_strong v. t",
    "__hip_atomic_exchange v. t __hip_atomic_fetch_add v. t __hip_atomic_fetch_and v. t",
    "__hip_atomic_fetch_or v. t __hip_atomic_fetch_xor v. t __hip_atomic_fetch_min v. t",
    "__hip_atomic_fetch_max v. t"]),
  (.x86, [
    "__builtin_cpu_supports bcC* nc __builtin_cpu_is bcC* nc __builtin_cpu_init v n",
    "__builtin_ia32_rdtsc UOi n __builtin_ia32_rdtscp UOiUi* n __builtin_ia32_rdpmc UOii n",
    "__builtin_ia32_pause v n __builtin_ia32_lfence v n __builtin_ia32_mfence v n",
    "__builtin_ia32_sfence v n __builtin_ia32_clflush vvC* n __builtin_ia32_readeflags_u64 UOi n",
    "__builtin_ia32_writeeflags_u64 vUOi n __builtin_ia32_bsrsi ii n __builtin_ia32_rolqi UcUcUc",
    "n __builtin_ia32_rolhi UsUsUc n __builtin_ia32_rorqi UcUcUc n __builtin_ia32_rorhi UsUsUc n",
    "__builtin_ia32_stmxcsr Ui n __builtin_ia32_ldmxcsr vUi n __builtin_ia32_emms v n",
    "__builtin_ia32_undef128 V2d n __builtin_ia32_undef256 V4d n __builtin_ia32_undef512 V8d n"]),
  (.cxx, [
    "__builtin_is_constant_evaluated b nE"]),
  (.microsoft, [
    "_alloca v*z n __annotation wC*. n __assume vb nE _bittest UcNiC*Ni n _bittestandcomplement",
    "UcNi*Ni n _bittestandreset UcNi*Ni n _bittestandset UcNi*Ni n _bittest64 UcWiC*Wi n",
    "_bittestandcomplement64 UcWi*Wi n _bittestandreset64 UcWi*Wi n _bittestandset64 UcWi*Wi n",
    "_interlockedbittestandreset UcNiD*Ni n _interlockedbittestandset UcNiD*Ni n",
    "__iso_volatile_load8 ccCD* n __iso_volatile_load16 ssCD* n __iso_volatile_load32 iiCD* n",
    "__iso_volatile_load64 LLiLLiCD* n __iso_volatile_store8 vcD*c n __iso_volatile_store16 vsD*s",
    "n __iso_volatile_store32 viD*i n __iso_volatile_store64 vLLiD*LLi n __debugbreak v n",
    "__exception_code UNi n _exception_code UNi n __exception_info v* n _exception_info v* n",
    "__abnormal_termination i n _abnormal_termination i n __GetExceptionInfo v*. zntu",
    "_InterlockedAnd8 ccD*c n _InterlockedAnd16 ssD*s n _InterlockedAnd NiNiD*Ni n",
    "_InterlockedCompareExchange8 ccD*cc n _InterlockedCompareExchange16 ssD*ss n",
    "_InterlockedCompareExchange NiNiD*NiNi n _InterlockedCompareExchange64 LLiLLiD*LLiLLi n",
    "_InterlockedCompareExchangePointer v*v*D*v*v* n _InterlockedCompareExchangePointer_nf",
    "v*v*D*v*v* n _InterlockedDecrement16 ssD* n _InterlockedDecrement NiNiD* n",
    "_InterlockedExchange8 ccD*c n _InterlockedExchange16 ssD*s n _InterlockedExchange NiNiD*Ni n",
    "_InterlockedExchangeAdd8 ccD*c n _InterlockedExchangeAdd16 ssD*s n _InterlockedExchangeAdd",
    "NiNiD*Ni n _InterlockedExchangePointer v*v*D*v* n _InterlockedExchangeSub8 ccD*c n",
    "_InterlockedExchangeSub16 ssD*s n _InterlockedExchangeSub NiNiD*Ni n _InterlockedIncrement16",
    "ssD* n _InterlockedIncrement NiNiD* n _InterlockedOr8 ccD*c n _InterlockedOr16 ssD*s n",
    "_InterlockedOr NiNiD*Ni n _InterlockedXor8 ccD*c n _InterlockedXor16 ssD*s n _InterlockedXor",
    "NiNiD*Ni n _InterlockedAnd64 WiWiD*Wi n _InterlockedDecrement64 WiWiD* n",
    "_InterlockedExchange64 WiWiD*Wi n _InterlockedExchangeAdd64 WiWiD*Wi n",
    "_InterlockedExchangeSub64 WiWiD*Wi n _InterlockedIncrement64 WiWiD* n _InterlockedOr64",
    "WiWiD*Wi n _InterlockedXor64 WiWiD*Wi n __lzcnt16 UsUs ncE __lzcnt UiUi ncE __lzcnt64 UWiUWi",
    "ncE __noop i. n __nvreg_save_restore v n __popcnt16 UsUs ncE __popcnt UiUi ncE __popcnt64",
    "UWiUWi ncE _ReturnAddress v* n _rotl8 UcUcUc nE _rotl16 UsUsUc nE _rotl UiUii nE _lrotl",
    "ULiULii nE _rotl64 UWiUWii nE _rotr8 UcUcUc nE _rotr16 UsUsUc nE _rotr UiUii nE _lrotr",
    "ULiULii nE _rotr64 UWiUWii nE __va_start vc**. nt __fastfail vUi nr _byteswap_ushort UsUs",
    "fnc _byteswap_ulong UNiUNi fnc _byteswap_uint64 ULLiULLi fnc _setjmpex iJ fjT"]),
  (.gnu, [
    "alloca v*z f memalign v*zz f memccpy v*v*vC*iz f mempcpy v*v*vC*z f stpcpy c*c*cC* f stpncpy",
    "c*c*cC*z f strdup c*cC* f strndup c*cC*z f index c*cC*i f rindex c*cC*i f bzero vv*z f bcopy",
    "vvC*v*z f bcmp ivC*vC*z fE strcasecmp icC*cC* f strncasecmp icC*cC*z f _exit vi fr",
    "pthread_create - fC<2,3> _longjmp vJi frT siglongjmp vSJi frT strlcpy zc*cC*z f strlcat",
    "zc*cC*z f"]),
  (.x86_64, [
    "__builtin_ms_va_start vc*&. nt __builtin_ms_va_end vc*& n __builtin_ms_va_copy vc*&c*& n"])]

/-- The builtin functions that a list of words gives, three words to a function. -/
def BuiltinFunction.ofWords (scope : BuiltinScope) : List String → List BuiltinFunction
  | name :: signature :: properties :: rest =>
    let field (w : String) : String := if w == "-" then "" else w
    ⟨name, field signature, field properties, scope⟩ :: ofWords scope rest
  | _ => []

/-- The builtin functions. -/
def builtinFunctionTable : List BuiltinFunction :=
  builtinWords.flatMap fun (scope, pieces) =>
    BuiltinFunction.ofWords scope ((" ".intercalate pieces).splitOn " ")

end NativeBindings.Header
