/-! Names that scripts find declared. -/
namespace PageLint.Script

/-- The names of the language. -/
def languageNames : List String :=
  ["undefined", "NaN", "Infinity", "globalThis", "arguments", "eval", "isNaN", "isFinite",
   "parseInt", "parseFloat", "encodeURI", "encodeURIComponent", "decodeURI", "decodeURIComponent",
   "Object", "Array", "String", "Number", "Boolean", "Symbol", "BigInt", "Function", "Math",
   "JSON", "Date", "RegExp", "Error", "TypeError", "RangeError", "SyntaxError", "ReferenceError",
   "EvalError", "URIError", "AggregateError", "Promise", "Map", "Set", "WeakMap", "WeakSet",
   "WeakRef", "Proxy", "Reflect", "Intl", "ArrayBuffer", "SharedArrayBuffer", "DataView",
   "Atomics", "Int8Array", "Uint8Array", "Uint8ClampedArray", "Int16Array", "Uint16Array",
   "Int32Array", "Uint32Array", "Float32Array", "Float64Array", "BigInt64Array", "BigUint64Array",
   "structuredClone", "queueMicrotask"]

/-- The names that a browser adds. -/
def browserNames : List String :=
  ["window", "document", "navigator", "location", "history", "localStorage", "sessionStorage",
   "console", "alert", "confirm", "prompt", "fetch", "Request", "Response", "Headers", "FormData",
   "URL", "URLSearchParams", "Blob", "File", "FileReader", "Event", "CustomEvent", "EventTarget",
   "HTMLElement", "Element", "Node", "MutationObserver", "IntersectionObserver", "ResizeObserver",
   "WebSocket", "Worker", "XMLHttpRequest", "AbortController", "TextEncoder", "TextDecoder",
   "crypto", "performance", "self", "setTimeout", "clearTimeout", "setInterval", "clearInterval",
   "requestAnimationFrame", "cancelAnimationFrame", "atob", "btoa", "Image", "Audio"]

/-- The names that a server adds. -/
def serverNames : List String :=
  ["require", "module", "exports", "process", "global", "Buffer", "__dirname", "__filename",
   "setImmediate", "clearImmediate"]

/-- A name that is there without a declaration. -/
def isAmbient (name : List Char) : Bool :=
  let name := String.ofList name
  languageNames.contains name || browserNames.contains name || serverNames.contains name

end PageLint.Script
