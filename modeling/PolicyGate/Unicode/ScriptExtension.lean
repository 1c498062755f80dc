import PolicyGate.Unicode.Script

/-!
Script extensions: the scripts in which a character is used, where these are not just the script
it belongs to.
-/

namespace PolicyGate.Unicode.ScriptExtension

/-- What is used in a script without belonging to it. -/
def additions : List (List String × CharSet) := [
  (["adlam", "adlm"], .ofText
    "61F 640"),
  (["arabic", "arab"], .ofText
    "60C 61B 61F 640 64B-655 670 FD3E-FD3F 102E0-102FB"),
  (["bengali", "beng"], .ofText
    "951-952 964-965 1CD0 1CD2 1CD5-1CD6 1CD8 1CE1 1CEA 1CED 1CF2 1CF5-1CF7 A8F1"),
  (["bopomofo", "bopo"], .ofText
    "3001-3003 3008-3011 3013-301F 302A-302D 3030 3037 30FB FE45-FE46 FF61-FF65"),
  (["buginese", "bugi"], .ofText
    "A9CF"),
  (["buhid", "buhd"], .ofText
    "1735-1736"),
  (["chakma", "cakm"], .ofText
    "9E6-9EF 1040-1049"),
  (["coptic", "copt", "qaac"], .ofText
    "102E0-102FB"),
  (["cypriot", "cprt"], .ofText
    "10100-10102 10107-10133 10137-1013F"),
  (["cyprominoan", "cpmn"], .ofText
    "10100-10101"),
  (["cyrillic", "cyrl"], .ofText
    "485-486 1DF8 2E43"),
  (["devanagari", "deva"], .ofText
    "951-952 964-965 1CD0-1CF6 1CF8-1CF9 20F0 A830-A839"),
  (["dogra", "dogr"], .ofText
    "964-96F A830-A839"),
  (["duployan", "dupl"], .ofText
    "1BCA0-1BCA3"),
  (["georgian", "geor"], .ofText
    "10FB"),
  (["glagolitic", "glag"], .ofText
    "484 487 2E43 A66F"),
  (["grantha", "gran"], .ofText
    "951-952 964-965 BE6-BF3 1CD0 1CD2-1CD3 1CF2-1CF4 1CF8-1CF9 20F0 1133B 11FD0-11FD1 11FD3"),
  (["greek", "grek"], .ofText
    "342 345 1DC0-1DC1"),
  (["gujarati", "gujr"], .ofText
    "951-952 964-965 A830-A839"),
  (["gunjalagondi", "gong"], .ofText
    "964-965"),
  (["gurmukhi", "guru"], .ofText
    "951-952 964-965 A830-A839"),
  (["han", "hani"], .ofText
    "2FF0-2FFF 3001-3003 3006 3008-3011 3013-301F 302A-302D 3030 3037 303C-303F 30FB
    3190-319F 31C0-31E3 31EF 3220-3247 3280-32B0 32C0-32CB 32FF 3358-3370 337B-337F
    33E0-33FE A700-A707 FE45-FE46 FF61-FF65 1D360-1D371 1F250-1F251"),
  (["hangul", "hang"], .ofText
    "3001-3003 3008-3011 3013-301F 3030 3037 30FB FE45-FE46 FF61-FF65"),
  (["hanifirohingya", "rohg"], .ofText
    "60C 61B 61F 640 6D4"),
  (["hanunoo", "hano"], .ofText
    "1735-1736"),
  (["hiragana", "hira"], .ofText
    "3001-3003 3008-3011 3013-301F 3030-3035 3037 303C-303D 3099-309C 30A0 30FB-30FC
    FE45-FE46 FF61-FF65 FF70 FF9E-FF9F"),
  (["javanese", "java"], .ofText
    "A9CF"),
  (["kaithi", "kthi"], .ofText
    "966-96F A830-A839"),
  (["kannada", "knda"], .ofText
    "951-952 964-965 1CD0 1CD2 1CDA 1CF2 1CF4 A830-A835"),
  (["katakana", "kana"], .ofText
    "3001-3003 3008-3011 3013-301F 3030-3035 3037 303C-303D 3099-309C 30A0 30FB-30FC
    FE45-FE46 FF61-FF65 FF70 FF9E-FF9F"),
  (["kayahli", "kali"], .ofText
    "A92E"),
  (["khojki", "khoj"], .ofText
    "AE6-AEF A830-A839"),
  (["khudawadi", "sind"], .ofText
    "964-965 A830-A839"),
  (["latin", "latn"], .ofText
    "363-36F 485-486 951-952 10FB 202F 20F0 A700-A707 A92E"),
  (["limbu", "limb"], .ofText
    "965"),
  (["lineara", "lina"], .ofText
    "10107-10133"),
  (["linearb", "linb"], .ofText
    "10100-10102 10107-10133 10137-1013F"),
  (["mahajani", "mahj"], .ofText
    "964-96F A830-A839"),
  (["malayalam", "mlym"], .ofText
    "951-952 964-965 1CDA A830-A832"),
  (["mandaic", "mand"], .ofText
    "640"),
  (["manichaean", "mani"], .ofText
    "640"),
  (["masaramgondi", "gonm"], .ofText
    "964-965"),
  (["modi"], .ofText
    "A830-A839"),
  (["mongolian", "mong"], .ofText
    "1802-1803 1805 202F"),
  (["multani", "mult"], .ofText
    "A66-A6F"),
  (["myanmar", "mymr"], .ofText
    "A92E"),
  (["nandinagari", "nand"], .ofText
    "964-965 CE6-CEF 1CE9 1CF2 1CFA A830-A835"),
  (["nko", "nkoo"], .ofText
    "60C 61B 61F FD3E-FD3F"),
  (["oldpermic", "perm"], .ofText
    "483"),
  (["olduyghur", "ougr"], .ofText
    "640 10AF2"),
  (["oriya", "orya"], .ofText
    "951-952 964-965 1CDA 1CF2"),
  (["phagspa", "phag"], .ofText
    "1802-1803 1805"),
  (["psalterpahlavi", "phlp"], .ofText
    "640"),
  (["sharada", "shrd"], .ofText
    "951 1CD7 1CD9 1CDC-1CDD 1CE0"),
  (["sinhala", "sinh"], .ofText
    "964-965"),
  (["sogdian", "sogd"], .ofText
    "640"),
  (["sylotinagri", "sylo"], .ofText
    "964-965 9E6-9EF"),
  (["syriac", "syrc"], .ofText
    "60C 61B-61C 61F 640 64B-655 670 1DF8 1DFA"),
  (["tagalog", "tglg"], .ofText
    "1735-1736"),
  (["tagbanwa", "tagb"], .ofText
    "1735-1736"),
  (["taile", "tale"], .ofText
    "1040-1049"),
  (["takri", "takr"], .ofText
    "964-965 A830-A839"),
  (["tamil", "taml"], .ofText
    "951-952 964-965 1CDA A8F3 11301 11303 1133B-1133C"),
  (["tangut", "tang"], .ofText
    "2FF0-2FFF 31EF"),
  (["telugu", "telu"], .ofText
    "951-952 964-965 1CDA 1CF2"),
  (["thaana", "thaa"], .ofText
    "60C 61B-61C 61F 660-669 FDF2 FDFD"),
  (["tirhuta", "tirh"], .ofText
    "951-952 964-965 1CF2 A830-A839"),
  (["yezidi", "yezi"], .ofText
    "60C 61B 61F 660-669"),
  (["yi", "yiii"], .ofText
    "3001-3002 3008-3011 3014-301B 30FB FF61-FF65")]

def removals : List (List String × CharSet) := [
  (["common", "zyyy"], .ofText
    "60C 61B 61F 640 964-965 10FB 1735-1736 1802-1803 1805 1CD3 1CE1 1CE9-1CEC 1CEE-1CF3
    1CF5-1CF7 1CFA 202F 2E43 2FF0-2FFF 3001-3003 3006 3008-3011 3013-301F 3030-3035 3037
    303C-303F 309B-309C 30A0 30FB-30FC 3190-319F 31C0-31E3 31EF 3220-3247 3280-32B0
    32C0-32CB 32FF 3358-3370 337B-337F 33E0-33FE A700-A707 A830-A839 A92E A9CF FD3E-FD3F
    FE45-FE46 FF61-FF65 FF70 FF9E-FF9F 10100-10102 10107-10133 10137-1013F 102E1-102FB
    1BCA0-1BCA3 1D360-1D371 1F250-1F251"),
  (["inherited", "zinh", "qaai"], .ofText
    "342 345 363-36F 485-486 64B-655 670 951-952 1CD0-1CD2 1CD4-1CE0 1CE2-1CE8 1CED 1CF4
    1CF8-1CF9 1DC0-1DC1 1DF8 1DFA 20F0 302A-302D 3099-309A 102E0 1133B")]

end PolicyGate.Unicode.ScriptExtension
