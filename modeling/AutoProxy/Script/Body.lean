import AutoProxy.Text.Basic

/-! The functions of a script. They take the steps of a decision in their order. -/
namespace AutoProxy.Script

/-- Nothing but string and number tests, so that no helper of the host environment is needed. -/
def body : List Text :=
  [
    "function isLocalHost(host) \x7b",
    "  if (host.indexOf(\".\") === -1) return true;",
    "  if (host.length >= 6 && host.substring(host.length - 6) === \".local\") return true;",
    "  var m = /^(\\d\x7b1,3\x7d)\\.(\\d\x7b1,3\x7d)\\.(\\d\x7b1,3\x7d)\\." ++
      "(\\d\x7b1,3\x7d)$/.exec(host);",
    "  if (!m) return false;",
    "  for (var i = 1; i <= 4; i++) \x7b",
    "    if (parseInt(m[i], 10) > 255 || (m[i].length > 1 && m[i].charAt(0) === \"0\")) " ++
      "return false;",
    "  \x7d",
    "  var a = parseInt(m[1], 10);",
    "  var b = parseInt(m[2], 10);",
    "  if (a === 127 || a === 10) return true;",
    "  if (a === 172 && b >= 16 && b <= 31) return true;",
    "  return a === 192 && b === 168;",
    "\x7d",
    "",
    "function hasOwn(table, key) \x7b",
    "  return Object.prototype.hasOwnProperty.call(table, key);",
    "\x7d",
    "",
    "function suffixHit(host, table) \x7b",
    "  var suffix = host;",
    "  while (true) \x7b",
    "    if (hasOwn(table, suffix)) return true;",
    "    var pos = suffix.indexOf(\".\");",
    "    if (pos === -1) return false;",
    "    suffix = suffix.substring(pos + 1);",
    "  \x7d",
    "\x7d",
    "",
    "function FindProxyForURL(url, host) \x7b",
    "  host = host.toLowerCase();",
    "",
    "  if (isLocalHost(host)) return direct;",
    "",
    "  if (hasOwn(whiteExactDomains, host)) return direct;",
    "  if (suffixHit(host, whiteDomainSuffixes)) return direct;",
    "",
    "  if (hasOwn(exactDomains, host)) return proxy;",
    "  if (suffixHit(host, domainSuffixes)) return proxy;",
    "",
    "  for (var i = 0; i < keywords.length; i++) \x7b",
    "    if (host.indexOf(keywords[i]) !== -1) return proxy;",
    "  \x7d",
    "",
    "  return direct;",
    "\x7d"
  ].map String.toList

end AutoProxy.Script
