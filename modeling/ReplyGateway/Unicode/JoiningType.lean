import ReplyGateway.Unicode.Stretches

namespace ReplyGateway

/-- The Joining_Type of characters in Unicode 17: on which sides a letter of a cursive script joins others. -/
inductive JoiningType
  | left
  | right
  /-- On both sides. -/
  | dual
  /-- What stands on one side joins what stands on the other. -/
  | transparent
  /-- No letter, or one that stays apart. -/
  | apart
  deriving DecidableEq, Repr

namespace JoiningType

def ofName? : List Char → Option JoiningType
  | ['L'] => some left
  | ['R'] => some right
  | ['D'] => some dual
  | ['T'] => some transparent
  | ['-'] => some apart
  | _ => none

/-- Where the type changes, in ascending order, and the type from there on. -/
def table : String := "
  0:- ad:T ae:- 300:T 370:- 483:T 48a:- 591:T 5be:- 5bf:T 5c0:- 5c1:T 5c3:- 5c4:T 5c6:- 5c7:T 5c8:- 610:T
  61b:- 61c:T 61d:- 620:D 621:- 622:R 626:D 627:R 628:D 629:R 62a:D 62f:R 633:D 640:- 641:D 648:R 649:D
  64b:T 660:- 66e:D 670:T 671:R 674:- 675:R 678:D 688:R 69a:D 6c0:R 6c1:D 6c3:R 6cc:D 6cd:R 6ce:D 6cf:R
  6d0:D 6d2:R 6d4:- 6d5:R 6d6:T 6dd:- 6df:T 6e5:- 6e7:T 6e9:- 6ea:T 6ee:R 6f0:- 6fa:D 6fd:- 6ff:D 700:-
  70f:T 710:R 711:T 712:D 715:R 71a:D 71e:R 71f:D 728:R 729:D 72a:R 72b:D 72c:R 72d:D 72f:R 730:T 74b:-
  74d:R 74e:D 759:R 75c:D 76b:R 76d:D 771:R 772:D 773:R 775:D 778:R 77a:D 780:- 7a6:T 7b1:- 7ca:D 7eb:T
  7f4:- 7fd:T 7fe:- 816:T 81a:- 81b:T 824:- 825:T 828:- 829:T 82e:- 840:R 841:D 846:R 848:D 849:R 84a:D
  854:R 855:D 856:R 859:T 85c:- 860:D 861:- 862:D 866:- 867:R 868:D 869:R 86b:- 870:R 883:- 886:D 887:-
  889:D 88e:R 88f:D 890:- 897:T 8a0:D 8aa:R 8ad:- 8ae:R 8af:D 8b1:R 8b3:D 8b9:R 8ba:D 8c9:- 8ca:T 8e2:-
  8e3:T 903:- 93a:T 93b:- 93c:T 93d:- 941:T 949:- 94d:T 94e:- 951:T 958:- 962:T 964:- 981:T 982:- 9bc:T
  9bd:- 9c1:T 9c5:- 9cd:T 9ce:- 9e2:T 9e4:- 9fe:T 9ff:- a01:T a03:- a3c:T a3d:- a41:T a43:- a47:T a49:-
  a4b:T a4e:- a51:T a52:- a70:T a72:- a75:T a76:- a81:T a83:- abc:T abd:- ac1:T ac6:- ac7:T ac9:- acd:T
  ace:- ae2:T ae4:- afa:T b00:- b01:T b02:- b3c:T b3d:- b3f:T b40:- b41:T b45:- b4d:T b4e:- b55:T b57:-
  b62:T b64:- b82:T b83:- bc0:T bc1:- bcd:T bce:- c00:T c01:- c04:T c05:- c3c:T c3d:- c3e:T c41:- c46:T
  c49:- c4a:T c4e:- c55:T c57:- c62:T c64:- c81:T c82:- cbc:T cbd:- cbf:T cc0:- cc6:T cc7:- ccc:T cce:-
  ce2:T ce4:- d00:T d02:- d3b:T d3d:- d41:T d45:- d4d:T d4e:- d62:T d64:- d81:T d82:- dca:T dcb:- dd2:T
  dd5:- dd6:T dd7:- e31:T e32:- e34:T e3b:- e47:T e4f:- eb1:T eb2:- eb4:T ebd:- ec8:T ecf:- f18:T f1a:-
  f35:T f36:- f37:T f38:- f39:T f3a:- f71:T f7f:- f80:T f85:- f86:T f88:- f8d:T f98:- f99:T fbd:- fc6:T
  fc7:- 102d:T 1031:- 1032:T 1038:- 1039:T 103b:- 103d:T 103f:- 1058:T 105a:- 105e:T 1061:- 1071:T 1075:-
  1082:T 1083:- 1085:T 1087:- 108d:T 108e:- 109d:T 109e:- 135d:T 1360:- 1712:T 1715:- 1732:T 1734:- 1752:T
  1754:- 1772:T 1774:- 17b4:T 17b6:- 17b7:T 17be:- 17c6:T 17c7:- 17c9:T 17d4:- 17dd:T 17de:- 1807:D 1808:-
  180b:T 180e:- 180f:T 1810:- 1820:D 1879:- 1885:T 1887:D 18a9:T 18aa:D 18ab:- 1920:T 1923:- 1927:T 1929:-
  1932:T 1933:- 1939:T 193c:- 1a17:T 1a19:- 1a1b:T 1a1c:- 1a56:T 1a57:- 1a58:T 1a5f:- 1a60:T 1a61:- 1a62:T
  1a63:- 1a65:T 1a6d:- 1a73:T 1a7d:- 1a7f:T 1a80:- 1ab0:T 1ade:- 1ae0:T 1aec:- 1b00:T 1b04:- 1b34:T 1b35:-
  1b36:T 1b3b:- 1b3c:T 1b3d:- 1b42:T 1b43:- 1b6b:T 1b74:- 1b80:T 1b82:- 1ba2:T 1ba6:- 1ba8:T 1baa:- 1bab:T
  1bae:- 1be6:T 1be7:- 1be8:T 1bea:- 1bed:T 1bee:- 1bef:T 1bf2:- 1c2c:T 1c34:- 1c36:T 1c38:- 1cd0:T 1cd3:-
  1cd4:T 1ce1:- 1ce2:T 1ce9:- 1ced:T 1cee:- 1cf4:T 1cf5:- 1cf8:T 1cfa:- 1dc0:T 1e00:- 200b:T 200c:- 200e:T
  2010:- 202a:T 202f:- 2060:T 2065:- 206a:T 2070:- 20d0:T 20f1:- 2cef:T 2cf2:- 2d7f:T 2d80:- 2de0:T 2e00:-
  302a:T 302e:- 3099:T 309b:- a66f:T a673:- a674:T a67e:- a69e:T a6a0:- a6f0:T a6f2:- a802:T a803:- a806:T
  a807:- a80b:T a80c:- a825:T a827:- a82c:T a82d:- a840:D a872:L a873:- a8c4:T a8c6:- a8e0:T a8f2:- a8ff:T
  a900:- a926:T a92e:- a947:T a952:- a980:T a983:- a9b3:T a9b4:- a9b6:T a9ba:- a9bc:T a9be:- a9e5:T a9e6:-
  aa29:T aa2f:- aa31:T aa33:- aa35:T aa37:- aa43:T aa44:- aa4c:T aa4d:- aa7c:T aa7d:- aab0:T aab1:- aab2:T
  aab5:- aab7:T aab9:- aabe:T aac0:- aac1:T aac2:- aaec:T aaee:- aaf6:T aaf7:- abe5:T abe6:- abe8:T abe9:-
  abed:T abee:- fb1e:T fb1f:- fe00:T fe10:- fe20:T fe30:- feff:T ff00:- fff9:T fffc:- 101fd:T 101fe:-
  102e0:T 102e1:- 10376:T 1037b:- 10a01:T 10a04:- 10a05:T 10a07:- 10a0c:T 10a10:- 10a38:T 10a3b:- 10a3f:T
  10a40:- 10ac0:D 10ac5:R 10ac6:- 10ac7:R 10ac8:- 10ac9:R 10acb:- 10acd:L 10ace:R 10ad3:D 10ad7:L 10ad8:D
  10add:R 10ade:D 10ae1:R 10ae2:- 10ae4:R 10ae5:T 10ae7:- 10aeb:D 10aef:R 10af0:- 10b80:D 10b81:R 10b82:D
  10b83:R 10b86:D 10b89:R 10b8a:D 10b8c:R 10b8d:D 10b8e:R 10b90:D 10b91:R 10b92:- 10ba9:R 10bad:D 10baf:-
  10d00:L 10d01:D 10d22:R 10d23:D 10d24:T 10d28:- 10d69:T 10d6e:- 10eab:T 10ead:- 10ec2:R 10ec3:D 10ec5:-
  10ec6:D 10ec8:- 10efa:T 10f00:- 10f30:D 10f33:R 10f34:D 10f45:- 10f46:T 10f51:D 10f54:R 10f55:- 10f70:D
  10f74:R 10f76:D 10f82:T 10f86:- 10fb0:D 10fb1:- 10fb2:D 10fb4:R 10fb7:- 10fb8:D 10fb9:R 10fbb:D 10fbd:R
  10fbe:D 10fc0:- 10fc1:D 10fc2:R 10fc4:D 10fc5:- 10fc9:R 10fca:D 10fcb:L 10fcc:- 11001:T 11002:- 11038:T
  11047:- 11070:T 11071:- 11073:T 11075:- 1107f:T 11082:- 110b3:T 110b7:- 110b9:T 110bb:- 110c2:T 110c3:-
  11100:T 11103:- 11127:T 1112c:- 1112d:T 11135:- 11173:T 11174:- 11180:T 11182:- 111b6:T 111bf:- 111c9:T
  111cd:- 111cf:T 111d0:- 1122f:T 11232:- 11234:T 11235:- 11236:T 11238:- 1123e:T 1123f:- 11241:T 11242:-
  112df:T 112e0:- 112e3:T 112eb:- 11300:T 11302:- 1133b:T 1133d:- 11340:T 11341:- 11366:T 1136d:- 11370:T
  11375:- 113bb:T 113c1:- 113ce:T 113cf:- 113d0:T 113d1:- 113d2:T 113d3:- 113e1:T 113e3:- 11438:T 11440:-
  11442:T 11445:- 11446:T 11447:- 1145e:T 1145f:- 114b3:T 114b9:- 114ba:T 114bb:- 114bf:T 114c1:- 114c2:T
  114c4:- 115b2:T 115b6:- 115bc:T 115be:- 115bf:T 115c1:- 115dc:T 115de:- 11633:T 1163b:- 1163d:T 1163e:-
  1163f:T 11641:- 116ab:T 116ac:- 116ad:T 116ae:- 116b0:T 116b6:- 116b7:T 116b8:- 1171d:T 1171e:- 1171f:T
  11720:- 11722:T 11726:- 11727:T 1172c:- 1182f:T 11838:- 11839:T 1183b:- 1193b:T 1193d:- 1193e:T 1193f:-
  11943:T 11944:- 119d4:T 119d8:- 119da:T 119dc:- 119e0:T 119e1:- 11a01:T 11a0b:- 11a33:T 11a39:- 11a3b:T
  11a3f:- 11a47:T 11a48:- 11a51:T 11a57:- 11a59:T 11a5c:- 11a8a:T 11a97:- 11a98:T 11a9a:- 11b60:T 11b61:-
  11b62:T 11b65:- 11b66:T 11b67:- 11c30:T 11c37:- 11c38:T 11c3e:- 11c3f:T 11c40:- 11c92:T 11ca8:- 11caa:T
  11cb1:- 11cb2:T 11cb4:- 11cb5:T 11cb7:- 11d31:T 11d37:- 11d3a:T 11d3b:- 11d3c:T 11d3e:- 11d3f:T 11d46:-
  11d47:T 11d48:- 11d90:T 11d92:- 11d95:T 11d96:- 11d97:T 11d98:- 11ef3:T 11ef5:- 11f00:T 11f02:- 11f36:T
  11f3b:- 11f40:T 11f41:- 11f42:T 11f43:- 11f5a:T 11f5b:- 13430:T 13441:- 13447:T 13456:- 1611e:T 1612a:-
  1612d:T 16130:- 16af0:T 16af5:- 16b30:T 16b37:- 16f4f:T 16f50:- 16f8f:T 16f93:- 16fe4:T 16fe5:- 1bc9d:T
  1bc9f:- 1bca0:T 1bca4:- 1cf00:T 1cf2e:- 1cf30:T 1cf47:- 1d167:T 1d16a:- 1d173:T 1d183:- 1d185:T 1d18c:-
  1d1aa:T 1d1ae:- 1d242:T 1d245:- 1da00:T 1da37:- 1da3b:T 1da6d:- 1da75:T 1da76:- 1da84:T 1da85:- 1da9b:T
  1daa0:- 1daa1:T 1dab0:- 1e000:T 1e007:- 1e008:T 1e019:- 1e01b:T 1e022:- 1e023:T 1e025:- 1e026:T 1e02b:-
  1e08f:T 1e090:- 1e130:T 1e137:- 1e2ae:T 1e2af:- 1e2ec:T 1e2f0:- 1e4ec:T 1e4f0:- 1e5ee:T 1e5f0:- 1e6e3:T
  1e6e4:- 1e6e6:T 1e6e7:- 1e6ee:T 1e6f0:- 1e6f5:T 1e6f6:- 1e8d0:T 1e8d7:- 1e900:D 1e944:T 1e94c:- e0001:T
  e0002:- e0020:T e0080:- e0100:T e01f0:-"

def stretches : Stretches JoiningType := .ofText ofName? table

def of (c : Char) : JoiningType := (stretches.value? c.toNat).getD apart

end JoiningType
end ReplyGateway
