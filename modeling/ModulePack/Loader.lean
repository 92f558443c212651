import ModulePack.Text.Affix

/-!
# The loader

The program text at the start of a bundle. It is a function expression that is called with the
entries, the launch parameters and the function that evaluates code; it instantiates the modules in
the order of their entries and calls the entry function.
-/

namespace ModulePack.Loader

def lines : List String :=
  [
    "function(defs, params, evalCode)\x7b",
    "\t\"use strict\";",
    "",
    "\tvar amdRequireName = params.amdRequire || \"require\";",
    "\tvar commonjsRequireName = params.commonjsRequire || \"require\";",
    "\tvar defMap = \x7b\x7d;",
    "\tvar products = \x7b\x7d;",
    "\tvar pending = \x7b\x7d;",
    "",
    "\tfunction handleError(e)\x7b",
    "\t\tif(params.errorHandler)\x7b",
    "\t\t\tparams.errorHandler(e);",
    "\t\t\x7d else \x7b",
    "\t\t\tthrow e;",
    "\t\t\x7d",
    "\t\x7d",
    "",
    "\tfunction externalRequire(name)\x7b",
    "\t\tvar g = typeof(globalThis) !== \"undefined\"? globalThis: typeof(window) !== \"undefined\"? window: this;",
    "\t\tvar preferred = params.preferCommonjs? commonjsRequireName: amdRequireName;",
    "\t\tvar fallback = params.preferCommonjs? amdRequireName: commonjsRequireName;",
    "\t\tvar req = typeof(require) === \"function\" && preferred === \"require\"? require: g && g[preferred];",
    "\t\tif(typeof(req) !== \"function\")\x7b",
    "\t\t\treq = g && g[fallback];",
    "\t\t\x7d",
    "\t\tif(typeof(req) !== \"function\")\x7b",
    "\t\t\tthrow new Error(\"Module \\\"\" + name + \"\\\" is not in bundle, and no require function is available to load it.\");",
    "\t\t\x7d",
    "\t\treturn req(name);",
    "\t\x7d",
    "",
    "\tfunction parseDef(arr)\x7b",
    "\t\tvar def = \x7bname: arr[0], deps: [], meta: \x7b\x7d, code: arr[arr.length - 1]\x7d;",
    "\t\tif(arr.length > 2)\x7b",
    "\t\t\tdef.deps = arr[1];",
    "\t\t\x7d",
    "\t\tif(arr.length > 3)\x7b",
    "\t\t\tdef.meta = arr[2];",
    "\t\t\x7d",
    "\t\treturn def;",
    "\t\x7d",
    "",
    "\tfunction placeholderFor(def)\x7b",
    "\t\tvar obj = \x7b\x7d;",
    "\t\tvar names = def.meta.exports || [];",
    "\t\tfor(var i = 0; i < names.length; i++)\x7b",
    "\t\t\tobj[names[i]] = undefined;",
    "\t\t\x7d",
    "\t\treturn obj;",
    "\t\x7d",
    "",
    "\tfunction copyReexports(def, exports)\x7b",
    "\t\tvar refs = def.meta.exportRefs || [];",
    "\t\tfor(var i = 0; i < refs.length; i++)\x7b",
    "\t\t\tvar source = getProduct(refs[i]);",
    "\t\t\tfor(var key in source)\x7b",
    "\t\t\t\tif(key !== \"default\" && !(key in exports))\x7b",
    "\t\t\t\t\texports[key] = source[key];",
    "\t\t\t\t\x7d",
    "\t\t\t\x7d",
    "\t\t\x7d",
    "\t\x7d",
    "",
    "\tfunction instantiate(def)\x7b",
    "\t\tvar exports = pending[def.name] || placeholderFor(def);",
    "\t\tpending[def.name] = exports;",
    "\t\tvar module = \x7bexports: exports\x7d;",
    "\t\t// modules without dependencies (like embedded helpers) get their exports object",
    "\t\tvar args = def.deps.length === 0? [exports]: [];",
    "\t\tfor(var i = 0; i < def.deps.length; i++)\x7b",
    "\t\t\tvar dep = def.deps[i];",
    "\t\t\tif(dep === \"exports\")\x7b",
    "\t\t\t\targs.push(exports);",
    "\t\t\t\x7d else if(dep === \"require\")\x7b",
    "\t\t\t\targs.push(getProduct);",
    "\t\t\t\x7d else if(dep === \"module\")\x7b",
    "\t\t\t\targs.push(module);",
    "\t\t\t\x7d else \x7b",
    "\t\t\t\targs.push(getProduct(dep));",
    "\t\t\t\x7d",
    "\t\t\x7d",
    "\t\tvar fn = evalCode(\"(\" + def.code + \")\\n//# sourceURL=\" + def.name);",
    "\t\tvar result = fn.apply(null, args);",
    "\t\tvar product = def.meta.arbitraryType? (result !== undefined? result: module.exports): exports;",
    "\t\tif(!def.meta.arbitraryType)\x7b",
    "\t\t\tcopyReexports(def, exports);",
    "\t\t\x7d",
    "\t\tproducts[def.name] = product;",
    "\t\tdelete pending[def.name];",
    "\t\treturn product;",
    "\t\x7d",
    "",
    "\tfunction getProduct(name)\x7b",
    "\t\tif(name in products)\x7b",
    "\t\t\treturn products[name];",
    "\t\t\x7d",
    "\t\tvar def = defMap[name];",
    "\t\tif(!def)\x7b",
    "\t\t\treturn externalRequire(name);",
    "\t\t\x7d",
    "\t\tif(name in pending)\x7b",
    "\t\t\t// circular dependency that is not instantiated yet",
    "\t\t\treturn pending[name];",
    "\t\t\x7d",
    "\t\treturn instantiate(def);",
    "\t\x7d",
    "",
    "\ttry \x7b",
    "\t\tfor(var i = 0; i < defs.length; i++)\x7b",
    "\t\t\tvar def = parseDef(defs[i]);",
    "\t\t\tdefMap[def.name] = def;",
    "\t\t\tif(def.meta.altName)\x7b",
    "\t\t\t\tdefMap[def.meta.altName] = def;",
    "\t\t\t\x7d",
    "\t\t\tif(def.meta.exports)\x7b",
    "\t\t\t\tpending[def.name] = placeholderFor(def);",
    "\t\t\t\x7d",
    "\t\t\x7d",
    "\t\tfor(var j = 0; j < defs.length; j++)\x7b",
    "\t\t\tgetProduct(defs[j][0]);",
    "\t\t\x7d",
    "\t\tvar entry = getProduct(params.entryPoint.module);",
    "\t\tvar entryFn = entry[params.entryPoint.function];",
    "\t\tif(typeof(entryFn) !== \"function\")\x7b",
    "\t\t\tthrow new Error(\"Entry point function \\\"\" + params.entryPoint.function + \"\\\" is not exported from \" + params.entryPoint.module);",
    "\t\t\x7d",
    "\t\tvar entryResult = entryFn.apply(null, params.entryPointArgs || []);",
    "\t\tif(params.afterEntryPointExecuted)\x7b",
    "\t\t\tparams.afterEntryPointExecuted(null, entryResult);",
    "\t\t\x7d",
    "\t\x7d catch(e)\x7b",
    "\t\tif(params.afterEntryPointExecuted)\x7b",
    "\t\t\tparams.afterEntryPointExecuted(e);",
    "\t\t\x7d",
    "\t\thandleError(e);",
    "\t\x7d",
    "\x7d",
    ""
  ]

def code : String := Text.join "\n" lines

end ModulePack.Loader
